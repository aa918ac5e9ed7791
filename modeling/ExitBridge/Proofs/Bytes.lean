/-
  The bytes of texts.

  * `toList_eq`: the bytes of a byte array, which the core library collects in a loop.
  * `eq_of_toUTF8_toList`: a text is known by its bytes.
-/
import Mathlib.Tactic.Common
import ExitBridge.Bytes.BigEndian

namespace ExitBridge

theorem toList_loop (bs : ByteArray) (i : Nat) (read : List UInt8) :
    ByteArray.toList.loop bs i read = read.reverse ++ bs.data.toList.drop i := by
  fun_induction ByteArray.toList.loop bs i read with
  | case1 i read inside ih =>
    have size : i < bs.data.toList.length := by simpa using inside
    have byte : bs.get! i = bs.data.toList[i] := by
      rw [Array.getElem_toList]
      exact getElem!_pos bs.data i inside
    rw [ih, List.drop_eq_getElem_cons size, List.reverse_cons, List.append_assoc, byte]
    rfl
  | case2 i read outside =>
    rw [List.drop_eq_nil_of_le, List.append_nil]
    simpa using outside

theorem toList_eq (bs : ByteArray) : bs.toList = bs.data.toList := by
  rw [ByteArray.toList, toList_loop, List.reverse_nil, List.nil_append, List.drop_zero]

theorem eq_of_toUTF8_toList {s t : String} (same : s.toUTF8.toList = t.toUTF8.toList) : s = t := by
  rw [toList_eq, toList_eq] at same
  exact String.toByteArray_inj.1 (ByteArray.ext (Array.toList_inj.1 same))

end ExitBridge
