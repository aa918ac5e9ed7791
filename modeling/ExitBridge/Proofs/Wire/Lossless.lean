/-
  Types that lose nothing on the wire.

  * `Wire.ReadsBack a`: whatever says the same as the form of `a` is read as `a`; `Wire.Lossless`:
    that is so for all values of a type. Scalars, byte strings and amounts are lossless, and so are
    lists and options of what is lossless.
  * `Members.Holds.required`, `Members.Holds.optional`, `Members.Holds.withDefault`: reading a
    member that an object holds.
  * `Wire.RoundTrips a`: moreover, the text of `a` is read as `a`. It is if the form of `a` is
    plain, as those of a `Wire.PlainForm` are.
  * `WireRecord.readsBack`: a record reads back if its members do; `LosslessRecord`: that is so for
    all records of a type.
-/
import ExitBridge.Proofs.Wire.Restated
import ExitBridge.Proofs.Wire.Text

namespace ExitBridge

namespace Wire

/-- Whatever says the same as the form of a value is read as the value. -/
def ReadsBack {α : Type} [Wire α] (a : α) : Prop :=
  ∀ j, (write a).Restated j → read? j = some a

/-- All values of a type read back. -/
class Lossless (α : Type) [Wire α] : Prop where
  readsBack (a : α) : ReadsBack a

variable {α : Type} [Wire α]

theorem readsBack_of_isScalar {a : α} (scalar : (write a).IsScalar)
    (same : read? (write a) = some a) : ReadsBack a := by
  intro j restated
  rw [restated.eq_of_isScalar scalar, same]

/-- An object reads back if its members do, and have different names. -/
theorem readsBack_of_members {a : α} {written : Members} (object : write a = .object written)
    (nodup : (written.map (·.1)).Nodup)
    (reads : ∀ ms : Members, ms.HoldsAll written → read? (.object ms) = some a) :
    ReadsBack a := by
  intro j restated
  rw [object] at restated
  obtain ⟨ms, rfl, holds⟩ := restated.exists_holdsAll nodup
  exact reads ms holds

/-! ## Scalars -/

instance : Lossless Bool := ⟨fun _ => readsBack_of_isScalar trivial rfl⟩

instance : Lossless String := ⟨fun _ => readsBack_of_isScalar trivial rfl⟩

theorem readBelow?_ofNat {limit n : Nat} (h : n < limit) :
    readBelow? limit (Json.ofNat n) = some n := if_pos h

theorem readsBack_nat {n : Nat} (h : n < 2 ^ 64) : ReadsBack n :=
  readsBack_of_isScalar trivial (readBelow?_ofNat h)

instance : Lossless UInt32 where
  readsBack n := readsBack_of_isScalar trivial <| by
    show (readBelow? (2 ^ 32) (Json.ofNat n.toNat)).map UInt32.ofNat = some n
    rw [readBelow?_ofNat n.toNat_lt, Option.map_some, UInt32.ofNat_toNat]

instance : Lossless UInt64 where
  readsBack n := readsBack_of_isScalar trivial <| by
    show (readBelow? (2 ^ 64) (Json.ofNat n.toNat)).map UInt64.ofNat = some n
    rw [readBelow?_ofNat n.toNat_lt, Option.map_some, UInt64.ofNat_toNat]

/-! ## Lists and options -/

theorem mapM_of_eachRestated {l : List α} {items : List Json} (each : ∀ a ∈ l, ReadsBack a)
    (restated : Json.EachRestated (l.map write) items) : items.mapM read? = some l := by
  induction l generalizing items with
  | nil =>
    cases restated
    rfl
  | cons a l ih =>
    cases restated with
    | cons first rest =>
      have one := each a List.mem_cons_self _ first
      have others := ih (fun b mem => each b (List.mem_cons_of_mem _ mem)) rest
      rw [List.mapM_cons, one, others]
      rfl

theorem readsBack_list {l : List α} (each : ∀ a ∈ l, ReadsBack a) : ReadsBack l := by
  intro j restated
  cases restated with
  | scalar scalar => exact scalar.elim
  | array each' => exact mapM_of_eachRestated each each'

instance [Lossless α] : Lossless (List α) where
  readsBack _ := readsBack_list fun a _ => Lossless.readsBack a

/-- Options read back if null stands for no value. -/
theorem lossless_option [Lossless α] (present : ∀ a : α, write a ≠ .null) :
    Lossless (Option α) where
  readsBack a? := by
    cases a? with
    | none => exact readsBack_of_isScalar trivial rfl
    | some a =>
      intro j restated
      have read : read? j = some a := Lossless.readsBack a j restated
      cases j with
      | null => exact absurd restated.eq_null (present a)
      | _ => exact congrArg (Option.map some) read

/-! ## Byte strings -/

theorem decode?_unmarked_text (bs : Bytes) :
    Hex.decode? (unmarked (Hex.text bs).toList) = some bs := by
  rw [Hex.text, String.toList_ofList, unmarked, Hex.decode?_encode]

instance : Lossless Bytes := ⟨fun bs => readsBack_of_isScalar trivial (decode?_unmarked_text bs)⟩

instance {n : Nat} : Lossless (FixedBytes n) where
  readsBack b := readsBack_of_isScalar trivial <| by
    show (Hex.decode? (unmarked (Hex.text b.toList).toList)).bind FixedBytes.ofBytes? = some b
    rw [decode?_unmarked_text, Option.bind_some, FixedBytes.ofBytes?_toList]

instance {n : Nat} : Lossless (Option (FixedBytes n)) := lossless_option nofun

/-! ## Amounts -/

theorem value?_digitChar {v : Nat} (h : v < 16) : Hex.value? v.digitChar = some v := by
  have all : ∀ v : Fin 16, Hex.value? v.val.digitChar = some v.val := by decide
  exact all ⟨v, h⟩

theorem readDigits?_append_digitChar {digits : List Char} {n v : Nat} (h : v < 16)
    (read : readDigits? 16 digits = some n) :
    readDigits? 16 (digits ++ [v.digitChar]) = some (n * 16 + v) := by
  rw [readDigits?] at read ⊢
  rw [List.foldlM_append, read]
  simp [value?_digitChar h, h]

theorem readDigits?_toDigits (n : Nat) : readDigits? 16 (Nat.toDigits 16 n) = some n := by
  induction n using Nat.strongRecOn with
  | ind n ih =>
    rw [Nat.toDigits_eq_if (by decide)]
    split
    · rename_i small
      have read := readDigits?_append_digitChar small (show readDigits? 16 [] = some 0 from rfl)
      rwa [List.nil_append, Nat.zero_mul, Nat.zero_add] at read
    · rename_i large
      rw [readDigits?_append_digitChar (Nat.mod_lt n (by decide)) (ih (n / 16) (by omega)),
        Nat.div_add_mod']

instance : Lossless Amount where
  readsBack a := readsBack_of_isScalar trivial <| by
    show readAmount? (.string (amountText a)) = some a
    have digits : readNumber? (amountText a).toList = some a.toNat := by
      rw [amountText, String.toList_ofList]
      exact readDigits?_toDigits a.toNat
    rw [readAmount?, digits]
    show (if a.toNat < 2 ^ 256 then some (BitVec.ofNat 256 a.toNat) else none) = some a
    rw [if_pos a.isLt, BitVec.ofNat_toNat, BitVec.setWidth_eq]

/-! ## Text -/

/-- The text of a value is read as the value, and so is whatever says the same as its form. -/
structure RoundTrips (a : α) : Prop where
  text : (Json.parse? (write a).render).bind read? = some a
  readsBack : ReadsBack a

/-- A form that is plain and not too deep is read from its text. -/
theorem ReadsBack.roundTrips {a : α} (readsBack : ReadsBack a)
    (plain : (write a).PlainTo Json.maxDepth) : RoundTrips a where
  text := by
    rw [Json.parse?_render plain]
    exact readsBack _ (.refl _)
  readsBack := readsBack

/-- All forms of a type are plain, and hold at most `depth` containers inside each other. -/
class PlainForm (α : Type) [Wire α] (depth : Nat) : Prop where
  plainTo (a : α) : (write a).PlainTo depth

variable {depth : Nat}

@[simp] theorem plainTo_write [PlainForm α depth] (a : α) : (write a).PlainTo depth :=
  PlainForm.plainTo a

@[simp] theorem plainTo_string (s : String) : (Json.string s).PlainTo depth := .scalar trivial

theorem plainTo_nat {n : Nat} (h : n < 2 ^ 64) : (write n).PlainTo depth := .scalar h

instance : PlainForm Bool depth := ⟨fun _ => .scalar trivial⟩

instance : PlainForm UInt32 depth where
  plainTo n := plainTo_nat (n.toNat_lt.trans (by decide))

instance : PlainForm UInt64 depth := ⟨fun n => plainTo_nat n.toNat_lt⟩

instance : PlainForm Bytes depth := ⟨fun _ => .scalar trivial⟩

instance {n : Nat} : PlainForm (FixedBytes n) depth := ⟨fun _ => .scalar trivial⟩

instance : PlainForm Amount depth := ⟨fun _ => .scalar trivial⟩

instance [PlainForm α depth] : PlainForm (List α) (depth + 1) where
  plainTo l := .array (by simp)

instance [PlainForm α depth] : PlainForm (Option α) depth where
  plainTo
    | some a => PlainForm.plainTo a
    | none => .scalar trivial

end Wire

/-! ## Members -/

namespace Members

variable {α : Type} [Wire α] {ms : Members} {name : String} {a : α}

theorem Holds.read (h : ms.Holds name (Wire.write a)) (readsBack : Wire.ReadsBack a) :
    ∃ j, ms.find? name = some (some j) ∧ Wire.read? j = some a := by
  obtain ⟨j, found, restated⟩ := h
  exact ⟨j, found, readsBack j restated⟩

theorem Holds.required_of_readsBack (h : ms.Holds name (Wire.write a))
    (readsBack : Wire.ReadsBack a) : ms.required name = some a := by
  obtain ⟨j, found, read⟩ := h.read readsBack
  rw [required, found]
  exact read

variable [Wire.Lossless α]

theorem Holds.required (h : ms.Holds name (Wire.write a)) : ms.required name = some a :=
  h.required_of_readsBack (Wire.Lossless.readsBack a)

omit [Wire α] [Wire.Lossless α] in
theorem Holds.tag {tag : String} (h : ms.Holds name (.string tag)) :
    ms.required name = some tag :=
  Holds.required h

theorem Holds.withDefault (h : ms.Holds name (Wire.write a)) (default : α) :
    ms.withDefault name default = some a := by
  obtain ⟨j, found, read⟩ := h.read (Wire.Lossless.readsBack a)
  rw [Members.withDefault, found]
  exact read

omit [Wire.Lossless α] in
theorem Holds.optional {a? : Option α} [Wire.Lossless (Option α)]
    (h : ms.Holds name (Wire.write a?)) : ms.optional name = some a? := by
  obtain ⟨j, found, read⟩ := h.read (Wire.Lossless.readsBack a?)
  rw [Members.optional, found]
  exact read

end Members

namespace WireRecord

variable {α : Type} [WireRecord α] {a : α}

/-- The names of a record's members. -/
def names (a : α) : List String := (members a).map (·.1)

theorem readsBack (nodup : (names a).Nodup)
    (reads : ∀ ms : Members, ms.HoldsAll (members a) → ofMembers? ms = some a) :
    Wire.ReadsBack a :=
  Wire.readsBack_of_members rfl nodup reads

end WireRecord

/-- Members of a record are read as the record, whatever stands beside them. -/
class LosslessRecord (α : Type) [WireRecord α] : Prop where
  nodup (a : α) : (WireRecord.names a).Nodup
  reads (a : α) (ms : Members) (holds : ms.HoldsAll (WireRecord.members a)) :
    WireRecord.ofMembers? ms = some a

instance {α : Type} [WireRecord α] [LosslessRecord α] : Wire.Lossless α where
  readsBack a := WireRecord.readsBack (LosslessRecord.nodup a) (LosslessRecord.reads a)

end ExitBridge
