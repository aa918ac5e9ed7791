/-
  Packed global indexes.

  * `GlobalIndex.parts`: the flag and the two indexes in a number, whether it is canonical or not.
  * `parts_pack`, `pack_parts`: packing loses nothing, and neither do the parts of a number with no
    bits above the flag.
  * `GlobalIndex.IsCanonical`, `HasCanonicalBits`: which indexes have a packed form of their own,
    and which numbers are one; `unpack_of_canonical`, `unpack_of_not_canonical`: those are read.
-/
import Mathlib.Tactic.Common
import ExitBridge.GlobalIndex

namespace ExitBridge.GlobalIndex

/-- The flag and the indexes in a packed index, also in one that is not canonical. -/
def parts (v : Amount) : GlobalIndex :=
  ⟨v.toNat.testBit 64, UInt32.ofNat (v.toNat / 2 ^ 32), UInt32.ofNat v.toNat⟩

theorem toNat_pack (g : GlobalIndex) : g.pack.toNat =
    (if g.mainnetFlag then 2 ^ 64 else 0) + g.rollupIndex.toNat * 2 ^ 32 + g.leafIndex.toNat := by
  have hr := g.rollupIndex.toNat_lt
  have hl := g.leafIndex.toNat_lt
  rw [pack, BitVec.toNat_ofNat, Nat.mod_eq_of_lt]
  split <;> omega

@[simp] theorem parts_pack (g : GlobalIndex) : parts g.pack = g := by
  obtain ⟨flag, rollup, leaf⟩ := g
  have hr := rollup.toNat_lt
  have hl := leaf.toNat_lt
  simp only [parts, toNat_pack, Nat.testBit_eq_decide_div_mod_eq, mk.injEq]
  refine ⟨?_, ?_, ?_⟩
  · cases flag with
    | false => simp; omega
    | true => simp; omega
  · refine UInt32.toNat_inj.1 ?_
    rw [UInt32.toNat_ofNat']
    cases flag with
    | false => simp; omega
    | true => simp; omega
  · refine UInt32.toNat_inj.1 ?_
    rw [UInt32.toNat_ofNat']
    cases flag with
    | false => simp
    | true => simp; omega

/-- The parts of a number are all there is, if it has no bits above the flag. -/
theorem pack_parts {v : Amount} (low : v.toNat < 2 ^ 65) : (parts v).pack = v := by
  refine BitVec.eq_of_toNat_eq ?_
  rw [toNat_pack]
  simp only [parts, UInt32.toNat_ofNat', Nat.testBit_eq_decide_div_mod_eq, decide_eq_true_eq]
  split <;> omega

/-! ## Canonical indexes -/

/-- A leaf of the mainnet has no rollup index. -/
def IsCanonical (g : GlobalIndex) : Prop := g.mainnetFlag = true → g.rollupIndex = 0

instance (g : GlobalIndex) : Decidable g.IsCanonical := inferInstanceAs (Decidable (_ → _))

/-- There are no bits above the flag, and beside the flag none of a rollup index. -/
def HasCanonicalBits (v : Amount) : Prop :=
  v.toNat < 2 ^ 65 ∧ (v.getLsbD 64 = true → ∀ i, 32 ≤ i → i < 64 → v.getLsbD i = false)

variable {v : Amount} {g : GlobalIndex}

theorem rollupIndex_parts_eq_zero :
    (parts v).rollupIndex = 0 ↔ ∀ i, 32 ≤ i → i < 64 → v.getLsbD i = false := by
  rw [← UInt32.toNat_inj, parts, UInt32.toNat_ofNat', UInt32.toNat_zero]
  constructor
  · intro zero i low high
    have bit : (v.toNat / 2 ^ 32 % 2 ^ 32).testBit (i - 32) = false := by
      rw [zero, Nat.zero_testBit]
    rw [Nat.testBit_mod_two_pow, decide_eq_true (by omega), Bool.true_and, Nat.testBit_div_two_pow,
      Nat.sub_add_cancel low] at bit
    exact bit
  · intro unset
    refine Nat.eq_of_testBit_eq fun i => ?_
    rw [Nat.testBit_mod_two_pow, Nat.testBit_div_two_pow, Nat.zero_testBit, Bool.and_eq_false_imp]
    intro inside
    have inside := of_decide_eq_true inside
    exact unset (i + 32) (by omega) (by omega)

theorem hasCanonicalBits_iff : HasCanonicalBits v ↔ v.toNat < 2 ^ 65 ∧ (parts v).IsCanonical := by
  rw [HasCanonicalBits, IsCanonical, rollupIndex_parts_eq_zero]
  rfl

theorem hasCanonicalBits_pack : HasCanonicalBits g.pack ↔ g.IsCanonical := by
  rw [hasCanonicalBits_iff, parts_pack, and_iff_right]
  have rollup := g.rollupIndex.toNat_lt
  have leaf := g.leafIndex.toNat_lt
  rw [toNat_pack]
  split <;> omega

theorem unpack_of_canonical (canonical : HasCanonicalBits v) : unpack v = .ok (parts v) := by
  obtain ⟨low, rollup⟩ := hasCanonicalBits_iff.1 canonical
  rw [unpack, if_neg]
  · rfl
  · rintro (high | ⟨flag, other⟩)
    · exact high (Nat.div_eq_of_lt low)
    · exact other (rollup flag)

theorem unpack_of_not_canonical (other : ¬HasCanonicalBits v) :
    unpack v = .error .globalIndexInvalid := by
  rw [unpack, if_pos]
  by_contra fits
  rw [not_or, not_not, not_and, not_not] at fits
  refine other (hasCanonicalBits_iff.2 ⟨?_, fits.2⟩)
  exact (Nat.div_eq_zero_iff_lt (by decide)).1 fits.1

end ExitBridge.GlobalIndex
