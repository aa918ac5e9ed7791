/-
  The packed bytes of a leaf tell the leaf.

  * `bigEndian_inj`: numbers that fit are told by their bytes.
  * `Leaf.preimage_inj`: two leaves with the same preimage are the same.
-/
import ExitBridge.Leaf

namespace ExitBridge

theorem bigEndian_inj {k n m : Nat} (hn : n < 256 ^ k) (hm : m < 256 ^ k)
    (h : bigEndian k n = bigEndian k m) : n = m := by
  have numbers := congrArg ofBigEndian h
  rwa [ofBigEndian_bigEndian, ofBigEndian_bigEndian, Nat.mod_eq_of_lt hn, Nat.mod_eq_of_lt hm]
    at numbers

theorem bigEndian_toNat_inj {n m : UInt32} (h : bigEndian 4 n.toNat = bigEndian 4 m.toNat) :
    n = m :=
  UInt32.toNat_inj.1 (ExitBridge.bigEndian_inj n.toNat_lt m.toNat_lt h)

theorem Amount.toBytes_inj {a b : Amount} (h : a.toBytes = b.toBytes) : a = b :=
  BitVec.eq_of_toNat_eq (bigEndian_inj (Nat.lt_of_lt_of_eq a.isLt (by decide))
    (Nat.lt_of_lt_of_eq b.isLt (by decide)) h)

theorem LeafKind.toByte_inj {a b : LeafKind} (h : a.toByte = b.toByte) : a = b := by
  cases a <;> cases b <;> first | rfl | cases h

/-- A leaf is told by its preimage. -/
theorem Leaf.preimage_inj {a b : Leaf} (h : a.preimage = b.preimage) : a = b := by
  obtain ⟨kind, rest⟩ := List.cons.inj h
  obtain ⟨rest, metadataHash⟩ := List.append_inj' rest (by simp)
  obtain ⟨rest, amount⟩ := List.append_inj' rest (by simp [Amount.toBytes])
  obtain ⟨rest, destinationAddress⟩ := List.append_inj' rest (by simp)
  obtain ⟨rest, destinationNetwork⟩ := List.append_inj' rest (by simp)
  obtain ⟨originNetwork, originAddress⟩ := List.append_inj' rest (by simp)
  cases a
  cases b
  simp only [Leaf.mk.injEq]
  exact ⟨LeafKind.toByte_inj kind, bigEndian_toNat_inj originNetwork,
    FixedBytes.ext originAddress, bigEndian_toNat_inj destinationNetwork,
    FixedBytes.ext destinationAddress, Amount.toBytes_inj amount, FixedBytes.ext metadataHash⟩

end ExitBridge
