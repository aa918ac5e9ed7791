/-
  Effects create no value.

  The supply of a token is its total over all holders. It grows by what is minted, and shrinks by
  what is burned and by transfer fees. A credit that stops at the largest amount loses value on top
  of that, and nothing adds any.

  * `Effect.minted`, `Effect.burned`, `Book.feeTaken`: what an effect makes of a token, destroys of
    it, and loses on the way.
  * `Book.CreditsFit`: no credit of a list of effects stops at the largest amount.
  * `Book.effects_create_no_value`: over all lists of effects.
-/
import Mathlib.Algebra.Order.BigOperators.Group.Finset
import Mathlib.Algebra.Ring.Nat
import ExitBridge.Proofs.Execution.Stage
import ExitBridge.Proofs.Execution.TransferFee

namespace ExitBridge

/-! ## What effects make and destroy -/

/-- What an effect makes of a token. -/
def Effect.minted (token : Address) : Effect → Nat
  | mintWrapped t _ amount => if t = token then amount.toNat else 0
  | _ => 0

/-- What an effect destroys of a token. -/
def Effect.burned (token : Address) : Effect → Nat
  | burnWrapped t _ amount => if t = token then amount.toNat else 0
  | _ => 0

namespace Book

/-- What an effect loses of a token in transit. -/
def feeTaken (b : Book) (token : Address) : Effect → Nat
  | .pullTokens t _ amount _ => if t = token then (b.transferFee t amount).toNat else 0
  | _ => 0

/-- An entry can be given to its holder in full. -/
def Overlay.Fits (o : Overlay) (b : Book) (e : Entry) : Prop :=
  (o.balance b e.token e.holder).toNat + e.amount.toNat < 2 ^ 256

/-- What an effect gives, after it has taken what it takes, arrives in full. -/
def CreditFits (b : Book) (o : Overlay) (effect : Effect) : Prop :=
  ∀ o₁ e, o.take b (effect.taken? b.escrow) = .ok o₁ → b.given? effect = some e → o₁.Fits b e

/-- No credit of effects, one after another, stops at the largest amount. -/
def CreditsFit (b : Book) : Overlay → List Effect → Prop
  | _, [] => True
  | o, effect :: effects =>
    b.CreditFits o effect ∧ ∀ o', b.stage o effect = .ok o' → b.CreditsFit o' effects

variable {b b' : Book} {o o' : Overlay} {effect : Effect} {effects : List Effect}
  {receipt : ExecutionReceipt} {token : Address}

/-- What is given is what is taken, but for what is made, destroyed and lost. -/
theorem totalOf_given_add (small : ∀ t, b.rate t ≤ maxFeeBps) (effect : Effect) (token : Address) :
    totalOf (b.given? effect) token + effect.burned token + b.feeTaken token effect =
      totalOf (effect.taken? b.escrow) token + effect.minted token := by
  cases effect with
  | pullTokens t sender amount permit =>
    by_cases same : t = token
    · subst same
      have fee := transferFee_le (small t) amount
      simp [given?, Effect.taken?, Effect.burned, Effect.minted, feeTaken, totalOf,
        toNat_sub_transferFee (small t), fee]
    · simp [given?, Effect.taken?, Effect.burned, Effect.minted, feeTaken, totalOf, same]
  | deliverMessage receiver originAddress originNetwork value payload =>
    rw [given?, Effect.taken?]
    split
    · rfl
    · rfl
  | _ => simp [given?, Effect.taken?, Effect.burned, Effect.minted, feeTaken, totalOf]

/-! ## Supply of an overlay -/

namespace Overlay

/-- The total of a token over all holders, as staged. -/
def supply (o : Overlay) (b : Book) (token : Address) : Nat :=
  ∑ holder, (o.balance b token holder).toNat

theorem supply_take {e? : Option Entry} (h : o.take b e? = .ok o') (token : Address) :
    o'.supply b token + totalOf e? token = o.supply b token := by
  rw [supply, supply, ← sum_amountAt, ← Finset.sum_add_distrib]
  refine Finset.sum_congr rfl fun who _ => ?_
  cases e? with
  | none =>
    cases h
    rfl
  | some e => exact balance_debit h token who

theorem balance_give_le (o : Overlay) (b : Book) (e? : Option Entry) (token who : Address) :
    ((o.give b e?).balance b token who).toNat ≤
      (o.balance b token who).toNat + amountAt e? token who := by
  cases e? with
  | none => exact le_rfl
  | some e =>
    rw [give, credit, balance_insert, amountAt, Option.elim_some, Entry.amountAt]
    split
    · rename_i same
      obtain ⟨rfl, rfl⟩ := same
      exact Amount.toNat_saturatingAdd_le _ _
    · exact le_rfl

theorem balance_give {e? : Option Entry} (fits : ∀ e, e? = some e → o.Fits b e)
    (token who : Address) : ((o.give b e?).balance b token who).toNat =
      (o.balance b token who).toNat + amountAt e? token who := by
  cases e? with
  | none => rfl
  | some e =>
    have room : _ < 2 ^ 256 := fits e rfl
    rw [give, credit, balance_insert, amountAt, Option.elim_some, Entry.amountAt]
    split
    · rename_i same
      obtain ⟨rfl, rfl⟩ := same
      rw [Amount.saturatingAdd, if_pos room, BitVec.toNat_add_of_lt room]
    · rfl

theorem supply_give_le (o : Overlay) (b : Book) (e? : Option Entry) (token : Address) :
    (o.give b e?).supply b token ≤ o.supply b token + totalOf e? token := by
  rw [supply, supply, ← sum_amountAt, ← Finset.sum_add_distrib]
  exact Finset.sum_le_sum fun who _ => balance_give_le o b e? token who

theorem supply_give {e? : Option Entry} (fits : ∀ e, e? = some e → o.Fits b e) (token : Address) :
    (o.give b e?).supply b token = o.supply b token + totalOf e? token := by
  rw [supply, supply, ← sum_amountAt, ← Finset.sum_add_distrib]
  exact Finset.sum_congr rfl fun who _ => balance_give fits token who

end Overlay

/-! ## One effect, and lists of them -/

/-- One effect adds no more than it makes, and takes away all that it destroys and loses. -/
theorem supply_of_stage (small : ∀ t, b.rate t ≤ maxFeeBps) (h : b.stage o effect = .ok o')
    (token : Address) :
    o'.supply b token + effect.burned token + b.feeTaken token effect ≤
      o.supply b token + effect.minted token ∧
    (b.CreditFits o effect → o'.supply b token + effect.burned token + b.feeTaken token effect =
      o.supply b token + effect.minted token) := by
  obtain ⟨o₁, taken, given, -⟩ := stage_eq_ok h
  have same : o'.supply b token = (o₁.give b (b.given? effect)).supply b token := by
    simp only [Overlay.supply, Overlay.balance, given]
  have paid := Overlay.supply_take taken token
  have total := totalOf_given_add small effect token
  constructor
  · have got := Overlay.supply_give_le o₁ b (b.given? effect) token
    omega
  · intro fits
    have got := Overlay.supply_give (fun e given => fits o₁ e taken given) token
    omega

theorem supply_of_foldlM (small : ∀ t, b.rate t ≤ maxFeeBps)
    (h : effects.foldlM b.stage o = .ok o') (token : Address) :
    o'.supply b token + (effects.map (·.burned token)).sum +
        (effects.map (b.feeTaken token)).sum ≤
      o.supply b token + (effects.map (·.minted token)).sum ∧
    (b.CreditsFit o effects → o'.supply b token + (effects.map (·.burned token)).sum +
        (effects.map (b.feeTaken token)).sum =
      o.supply b token + (effects.map (·.minted token)).sum) := by
  induction effects generalizing o with
  | nil =>
    cases h
    simp
  | cons effect effects ih =>
    rw [List.foldlM_cons] at h
    obtain ⟨o₁, staged, rest⟩ := except_bind_eq_ok.1 h
    obtain ⟨first, firstExact⟩ := supply_of_stage small staged token
    obtain ⟨later, laterExact⟩ := ih rest
    simp only [List.map_cons, List.sum_cons]
    refine ⟨by omega, fun ⟨fits, fits'⟩ => ?_⟩
    have one := firstExact fits
    have others := laterExact (fits' o₁ staged)
    omega

@[simp] theorem supply_empty (b : Book) (token : Address) :
    Overlay.empty.supply b token = b.supply token := by
  simp [Overlay.supply, supply]

@[simp] theorem supply_commit (b : Book) (o : Overlay) (token : Address) :
    (b.commit o).supply token = o.supply b token := by
  simp [Overlay.supply, supply]

/-- **Effects create no value.** The supply of a token afterwards, with what was burned and what was
    lost in fees, is at most the supply before and what was minted, and just that if no credit stops
    at the largest amount. What is subtracted on the way, a fee from an amount and an amount from a
    balance, is never more than what it is subtracted from. -/
theorem effects_create_no_value (filled : FeesSet b.feeBps)
    (h : b.apply effects = .ok (receipt, b')) (token : Address) :
    (b'.supply token + (effects.map (·.burned token)).sum + (effects.map (b.feeTaken token)).sum ≤
      b.supply token + (effects.map (·.minted token)).sum) ∧
    (b.CreditsFit .empty effects →
      b'.supply token + (effects.map (·.burned token)).sum + (effects.map (b.feeTaken token)).sum =
        b.supply token + (effects.map (·.minted token)).sum) ∧
    (∀ amount, (b.transferFee token amount).toNat ≤ amount.toNat ∧
      (amount - b.transferFee token amount).toNat =
        amount.toNat - (b.transferFee token amount).toNat) ∧
    ∀ {o o' : Overlay} {holder : Address} {amount : Amount},
      o.debit b token holder amount = .ok o' →
        amount.toNat ≤ (o.balance b token holder).toNat ∧
        (o'.balance b token holder).toNat = (o.balance b token holder).toNat - amount.toNat := by
  obtain ⟨o, staged, committed⟩ := except_bind_eq_ok.1 h
  cases committed
  have small := filled.rate_le
  obtain ⟨bounded, exact⟩ := supply_of_foldlM small staged token
  rw [supply_empty] at bounded exact
  rw [supply_commit]
  refine ⟨bounded, exact, fun amount => ?_, fun {o o' holder amount} debited => ?_⟩
  · exact ⟨transferFee_le (small token) amount, toNat_sub_transferFee (small token) amount⟩
  · have taken := Overlay.balance_debit debited token holder
    simp only [Entry.amountAt, and_self, if_true] at taken
    omega

/-- A thousand tokens are pulled at one percent, and ten are lost. -/
theorem effects_create_no_value_pulled : ∃ (b b' : Book) (receipt : ExecutionReceipt)
    (token sender : Address), FeesSet b.feeBps ∧
      b.apply [.pullTokens token sender 1000 none] = .ok (receipt, b') ∧
      b'.supply token + 10 = b.supply token := by
  let token : Address := ⟨List.replicate 20 0xd4, rfl⟩
  let sender : Address := ⟨List.replicate 20 0xa1, rfl⟩
  let escrow : Address := ⟨List.replicate 20 0xb0, rfl⟩
  have other : ¬(token = token ∧ sender = escrow) := by decide
  clear_value token sender escrow
  generalize thousand : (1000 : Amount) = amount
  let funded : Book := (Book.empty escrow).mint token sender amount
  let b : Book := funded.setTransferFee token 100
  have filled : FeesSet b.feeBps := .set (b := funded) .none token 100
  have rate : b.rate token = 100 := by
    rw [rate_setTransferFee, if_pos rfl]
    exact Nat.min_eq_left (by decide)
  have fee : (b.transferFee token amount).toNat = 10 := by
    rw [toNat_transferFee (filled.rate_le token), rate, ← thousand]
    decide
  have enough : amount ≤ b.balance token sender :=
    le_balance_mint (.empty escrow) token sender amount
  have nothing : b.balance token b.escrow = 0 := by
    refine (balance_mint (.empty escrow) token sender amount token escrow).trans ?_
    rw [if_neg other]
    simp [balance, Book.empty]
  clear_value b
  obtain ⟨receipt, b', applied⟩ := exists_pullTokens none enough
  have fits : b.CreditsFit .empty [.pullTokens token sender amount none] := by
    refine ⟨?_, fun _ _ => trivial⟩
    rintro o₁ e taken ⟨⟩
    have paid := Overlay.balance_debit taken token b.escrow
    rw [balance_empty, nothing] at paid
    have bound := (amount - b.transferFee token amount).isLt
    change (o₁.balance b token b.escrow).toNat + _ < _
    have zero : (0 : Amount).toNat = 0 := rfl
    omega
  have exact := (effects_create_no_value filled applied token).2.1 fits
  refine ⟨b, b', receipt, token, sender, filled, applied, ?_⟩
  -- the totals are opaque from here on
  generalize b'.supply token = after, b.supply token = before at exact ⊢
  simp only [List.map_cons, List.map_nil, List.sum_cons, List.sum_nil, Effect.burned, Effect.minted,
    feeTaken, if_true] at exact
  generalize (b.transferFee token amount).toNat = lost at fee exact
  omega

end Book

end ExitBridge
