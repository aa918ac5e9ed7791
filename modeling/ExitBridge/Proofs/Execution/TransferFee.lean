/-
  What a transfer of a token loses.

  A fee is a number of hundredths of a percent, at most all of the amount. The product of amount and
  fee wraps, so a fee on a large amount may be too small, but it never exceeds the amount.

  * `Book.FeesSet`: fee tables that are filled through `setTransferFee`.
  * `Book.transferFee_le`: what is left after the fee is a difference of numbers.
  * `Book.toNat_transferFee_eq_iff`: when the fee is the exact one.
-/
import ExitBridge.Proofs.Execution.Balance

namespace ExitBridge.Book

/-- The fee table is filled through `setTransferFee`. -/
inductive FeesSet : Std.HashMap Address Nat → Prop
  | none : FeesSet ∅
  | set {b : Book} (filled : FeesSet b.feeBps) (token : Address) (bps : Nat) :
      FeesSet (b.setTransferFee token bps).feeBps

/-- The transfer fee of a token. -/
def rate (b : Book) (token : Address) : Nat := b.feeBps.getD token 0

variable {b : Book} {token : Address}

@[simp] theorem rate_setTransferFee (b : Book) (token : Address) (bps : Nat) (t : Address) :
    (b.setTransferFee token bps).rate t = if token = t then min bps maxFeeBps else b.rate t := by
  simp only [rate, setTransferFee, Std.HashMap.getD_insert, beq_iff_eq]

theorem FeesSet.rate_le (filled : FeesSet b.feeBps) (token : Address) :
    b.rate token ≤ maxFeeBps := by
  rw [rate]
  generalize b.feeBps = fees at filled
  induction filled with
  | none => simp
  | @set b _ other bps ih =>
    have known := rate_setTransferFee b other bps token
    rw [rate, rate] at known
    rw [known]
    split
    · exact Nat.min_le_right _ _
    · exact ih

/-- The product of amount and fee wraps, and the quotient is rounded down. -/
theorem toNat_transferFee (small : b.rate token ≤ maxFeeBps) (amount : Amount) :
    (b.transferFee token amount).toNat = amount.toNat * b.rate token % 2 ^ 256 / maxFeeBps := by
  have fits : b.rate token < 2 ^ 256 := lt_of_le_of_lt small (by decide)
  rw [transferFee, ← rate, BitVec.toNat_udiv, BitVec.toNat_mul, BitVec.toNat_ofNat,
    BitVec.toNat_ofNat, Nat.mod_eq_of_lt fits]
  rfl

theorem share_le {bps : Nat} (small : bps ≤ maxFeeBps) (amount : Nat) :
    amount * bps / maxFeeBps ≤ amount :=
  calc amount * bps / maxFeeBps
    _ ≤ amount * maxFeeBps / maxFeeBps := Nat.div_le_div_right (Nat.mul_le_mul_left _ small)
    _ = amount := Nat.mul_div_cancel _ (by decide)

/-- A fee never exceeds the amount, even where the product wraps. -/
theorem transferFee_le (small : b.rate token ≤ maxFeeBps) (amount : Amount) :
    (b.transferFee token amount).toNat ≤ amount.toNat := by
  rw [toNat_transferFee small]
  calc amount.toNat * b.rate token % 2 ^ 256 / maxFeeBps
    _ ≤ amount.toNat * b.rate token / maxFeeBps := Nat.div_le_div_right (Nat.mod_le _ _)
    _ ≤ amount.toNat := share_le small amount.toNat

theorem toNat_sub_transferFee (small : b.rate token ≤ maxFeeBps) (amount : Amount) :
    (amount - b.transferFee token amount).toNat =
      amount.toNat - (b.transferFee token amount).toNat :=
  BitVec.toNat_sub_of_le (transferFee_le small amount)

/-- The fee is the exact one as long as the product does not wrap, and too small otherwise. -/
theorem toNat_transferFee_eq_iff (small : b.rate token ≤ maxFeeBps) (amount : Amount) :
    (b.transferFee token amount).toNat = amount.toNat * b.rate token / maxFeeBps ↔
      amount.toNat * b.rate token < 2 ^ 256 := by
  rw [toNat_transferFee small]
  generalize amount.toNat * b.rate token = product
  constructor
  · intro exact
    by_contra wraps
    -- a product that wraps loses enough for the quotient to be smaller
    have lost : product % 2 ^ 256 + maxFeeBps ≤ product := by
      have divided := Nat.mod_add_div product (2 ^ 256)
      have some : 0 < product / 2 ^ 256 := Nat.div_pos (Nat.le_of_not_lt wraps) (by decide)
      have least : 2 ^ 256 ≤ 2 ^ 256 * (product / 2 ^ 256) := Nat.le_mul_of_pos_right _ some
      have small : maxFeeBps ≤ 2 ^ 256 := by decide
      omega
    have smaller := Nat.div_le_div_right (c := maxFeeBps) lost
    rw [Nat.add_div_right _ (by decide), exact] at smaller
    exact Nat.not_succ_le_self _ smaller
  · intro fits
    rw [Nat.mod_eq_of_lt fits]

end ExitBridge.Book
