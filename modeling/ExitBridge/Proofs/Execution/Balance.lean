/-
  What effects do to balances.

  An effect takes an amount from one balance at most and gives one to one balance at most. As long
  as no balance reaches the largest amount, what is given arrives in full.

  * `Entry`, `Effect.taken?`, `Book.given?`: what an effect takes and gives.
  * `Book.balance_of_stage`, `Book.balance_of_apply`: one effect, and one among others that move
    nothing.
  * `Book.held`, `Book.supply`: what the escrow holds of a token, and its total over all holders.
  * `Book.escrow_of_apply`, `Book.supply_of_apply`: what moves a token into or out of the escrow,
    and what makes or destroys it.
-/
import Mathlib.Algebra.BigOperators.Group.Finset.Piecewise
import Mathlib.Data.FinEnum
import Mathlib.Data.Fintype.Vector
import Mathlib.Tactic.Common
import ExitBridge.Proofs.Execution.Book

namespace ExitBridge

/-! ## Amounts -/

theorem Amount.ne_max_iff {a : Amount} : a ≠ Amount.max ↔ a.toNat ≠ 2 ^ 256 - 1 := by
  rw [Ne, ← BitVec.toNat_inj, Amount.max, BitVec.toNat_allOnes]

/-- A sum that is not the largest amount has not stopped there. -/
theorem Amount.toNat_saturatingAdd {a c : Amount} (h : a.saturatingAdd c ≠ Amount.max) :
    (a.saturatingAdd c).toNat = a.toNat + c.toNat := by
  rw [saturatingAdd] at h ⊢
  split
  · rename_i room
    exact BitVec.toNat_add_of_lt room
  · rename_i full
    exact absurd (if_neg full) h

theorem Amount.toNat_saturatingAdd_le (a c : Amount) :
    (a.saturatingAdd c).toNat ≤ a.toNat + c.toNat := by
  by_cases full : a.saturatingAdd c = Amount.max
  · rw [saturatingAdd] at full ⊢
    split
    · rename_i room
      exact (BitVec.toNat_add_of_lt room).le
    · rename_i beyond
      exact (BitVec.isLt _).le.trans (Nat.le_of_not_lt beyond)
  · exact (Amount.toNat_saturatingAdd full).le

/-- An amount of a token, on one side of a transfer. -/
structure Entry where
  token : Address
  holder : Address
  amount : Amount

/-- What an entry counts for in a balance. -/
def Entry.amountAt (e : Entry) (token holder : Address) : Nat :=
  if e.token = token ∧ e.holder = holder then e.amount.toNat else 0

/-- What an entry counts for in a balance; nothing if there is none. -/
def amountAt (e? : Option Entry) (token holder : Address) : Nat :=
  e?.elim 0 (·.amountAt token holder)

/-! ## What effects say -/

/-- What an effect takes from a balance. -/
def Effect.taken? (escrow : Address) : Effect → Option Entry
  | lockNative sender amount => some ⟨.zero, sender, amount⟩
  | pullTokens token sender amount _ => some ⟨token, sender, amount⟩
  | burnWrapped token sender amount => some ⟨token, sender, amount⟩
  | releaseNative _ amount => some ⟨.zero, escrow, amount⟩
  | releaseTokens token _ amount => some ⟨token, escrow, amount⟩
  | deployWrapped _ _ => none
  | mintWrapped _ _ _ => none
  | deliverMessage _ _ _ value _ => if value = 0 then none else some ⟨.zero, escrow, value⟩

/-- What an effect gives to a balance; a transfer fee is lost on the way. -/
def Book.given? (b : Book) : Effect → Option Entry
  | .lockNative _ amount => some ⟨.zero, b.escrow, amount⟩
  | .pullTokens token _ amount _ => some ⟨token, b.escrow, amount - b.transferFee token amount⟩
  | .burnWrapped _ _ _ => none
  | .releaseNative receiver amount => some ⟨.zero, receiver, amount⟩
  | .releaseTokens token receiver amount => some ⟨token, receiver, amount⟩
  | .deployWrapped _ _ => none
  | .mintWrapped token receiver amount => some ⟨token, receiver, amount⟩
  | .deliverMessage receiver _ _ value _ => if value = 0 then none else some ⟨.zero, receiver, value⟩

/-- An effect that moves nothing. -/
def Effect.Still : Effect → Prop
  | deployWrapped _ _ => True
  | deliverMessage _ _ _ value _ => value = 0
  | _ => False

/-- The token that an effect brings into the escrow. -/
def Effect.escrows? : Effect → Option Address
  | lockNative _ _ => some .zero
  | pullTokens token _ _ _ => some token
  | _ => none

/-- The token that an effect has transferred into the escrow, for which it may lose a fee. -/
def Effect.pulls? : Effect → Option Address
  | pullTokens token _ _ _ => some token
  | _ => none

/-- The token that an effect hands out of the escrow. -/
def Effect.releases? : Effect → Option Address
  | releaseNative _ _ => some .zero
  | releaseTokens token _ _ => some token
  | deliverMessage _ _ _ value _ => if value = 0 then none else some .zero
  | _ => none

/-- The token that an effect destroys. -/
def Effect.burns? : Effect → Option Address
  | burnWrapped token _ _ => some token
  | _ => none

/-- The token that an effect makes. -/
def Effect.mints? : Effect → Option Address
  | mintWrapped token _ _ => some token
  | _ => none

theorem Effect.Still.moves_none {effect : Effect} (still : effect.Still) :
    effect.escrows? = none ∧ effect.releases? = none ∧ effect.burns? = none ∧
      effect.mints? = none := by
  cases effect with
  | deployWrapped token metadata => exact ⟨rfl, rfl, rfl, rfl⟩
  | deliverMessage receiver originAddress originNetwork value payload =>
    exact ⟨rfl, if_pos still, rfl, rfl⟩
  | _ => exact still.elim

/-- Who an effect takes from, or gives to, besides the escrow. -/
def Effect.party? : Effect → Option Address
  | lockNative sender _ => some sender
  | pullTokens _ sender _ _ => some sender
  | burnWrapped _ sender _ => some sender
  | releaseNative receiver _ => some receiver
  | releaseTokens _ receiver _ => some receiver
  | deployWrapped _ _ => none
  | mintWrapped _ receiver _ => some receiver
  | deliverMessage receiver _ _ _ _ => some receiver

/-- What a receipt says to have been pulled is what reaches the escrow. -/
def Book.Reaches (b : Book) (receipt : ExecutionReceipt) : Effect → Prop
  | .pullTokens token _ amount _ => receipt.pulled = amount - b.transferFee token amount
  | _ => True

/-- The amount that an effect moves, of which fees have been paid. -/
def Effect.amount (receipt : ExecutionReceipt) : Effect → Amount
  | lockNative _ amount => amount
  | pullTokens _ _ _ _ => receipt.pulled
  | burnWrapped _ _ amount => amount
  | releaseNative _ amount => amount
  | releaseTokens _ _ amount => amount
  | deployWrapped _ _ => 0
  | mintWrapped _ _ amount => amount
  | deliverMessage _ _ _ value _ => value

theorem Book.taken?_of_burns? {effect : Effect} {t : Address} (burns : effect.burns? = some t)
    (b : Book) (receipt : ExecutionReceipt) : ∃ sender, effect.party? = some sender ∧
      effect.taken? b.escrow = some ⟨t, sender, effect.amount receipt⟩ ∧
      b.given? effect = none := by
  cases effect with
  | burnWrapped token sender amount =>
    obtain rfl := Option.some.inj burns
    exact ⟨sender, rfl, rfl, rfl⟩
  | _ => cases burns

theorem Book.given?_of_mints? {effect : Effect} {t receiver : Address}
    (mints : effect.mints? = some t) (party : effect.party? = some receiver) (b : Book)
    (receipt : ExecutionReceipt) : b.given? effect = some ⟨t, receiver, effect.amount receipt⟩ ∧
      effect.taken? b.escrow = none := by
  cases effect with
  | mintWrapped token holder amount =>
    obtain rfl := Option.some.inj mints
    obtain rfl := Option.some.inj party
    exact ⟨rfl, rfl⟩
  | _ => cases mints

theorem Effect.escrows?_of_releases? {effect : Effect} {t : Address}
    (releases : effect.releases? = some t) : effect.escrows? = none := by
  cases effect with
  | lockNative sender amount => cases releases
  | pullTokens token sender amount permit => cases releases
  | _ => rfl

theorem Effect.releases?_of_escrows? {effect : Effect} {t : Address}
    (escrows : effect.escrows? = some t) : effect.releases? = none := by
  cases effect with
  | lockNative sender amount => rfl
  | pullTokens token sender amount permit => rfl
  | _ => cases escrows

namespace Book

variable {b b' : Book} {o o' : Overlay} {effect : Effect} {effects before after : List Effect}
  {receipt : ExecutionReceipt} {token holder receiver who t : Address} {amount : Amount}

/-! ## Overlays -/

namespace Overlay

theorem balance_insert (b : Book) (o : Overlay) (token holder : Address) (amount : Amount)
    (t who : Address) :
    Overlay.balance { o with balances := o.balances.insert (token, holder) amount } b t who =
      if token = t ∧ holder = who then amount else o.balance b t who := by
  simp only [balance, Std.HashMap.getElem?_insert, beq_iff_eq, Prod.mk.injEq]
  split <;> rfl

theorem balance_debit (h : o.debit b token holder amount = .ok o') (t who : Address) :
    (o'.balance b t who).toNat + Entry.amountAt ⟨token, holder, amount⟩ t who =
      (o.balance b t who).toNat := by
  simp only [debit] at h
  split at h
  · cases h
  · rename_i enough
    cases h
    rw [balance_insert, Entry.amountAt]
    by_cases same : token = t ∧ holder = who
    · obtain ⟨rfl, rfl⟩ := same
      have le : amount ≤ o.balance b token holder := BitVec.not_lt.1 enough
      rw [if_pos ⟨rfl, rfl⟩, if_pos ⟨rfl, rfl⟩, BitVec.toNat_sub_of_le le]
      exact Nat.sub_add_cancel le
    · rw [if_neg same, if_neg same, Nat.add_zero]

theorem balance_credit (below : (o.credit b token holder amount).balance b t who ≠ Amount.max) :
    ((o.credit b token holder amount).balance b t who).toNat =
      (o.balance b t who).toNat + Entry.amountAt ⟨token, holder, amount⟩ t who := by
  rw [credit, balance_insert] at below ⊢
  rw [Entry.amountAt]
  by_cases same : token = t ∧ holder = who
  · obtain ⟨rfl, rfl⟩ := same
    rw [if_pos ⟨rfl, rfl⟩] at below ⊢
    rw [if_pos ⟨rfl, rfl⟩, Amount.toNat_saturatingAdd below]
  · rw [if_neg same, if_neg same, Nat.add_zero]

theorem balance_transfer (h : o.transfer b token holder receiver amount = .ok o')
    (below : o'.balance b t who ≠ Amount.max) :
    (o'.balance b t who).toNat + Entry.amountAt ⟨token, holder, amount⟩ t who =
      (o.balance b t who).toNat + Entry.amountAt ⟨token, receiver, amount⟩ t who := by
  obtain ⟨o₁, hdebit, hcredit⟩ := except_bind_eq_ok.1 h
  cases hcredit
  rw [balance_credit below, ← balance_debit hdebit]
  omega

theorem pulled_of_debit (h : o.debit b token holder amount = .ok o') : o'.pulled = o.pulled := by
  simp only [debit] at h
  split at h
  · cases h
  · cases h
    rfl

end Overlay

/-! ## One effect -/

/-- **One effect** takes and gives what it says, as long as the balance stays below the largest
    amount. -/
theorem balance_of_stage (h : b.stage o effect = .ok o')
    (below : o'.balance b t who ≠ Amount.max) :
    (o'.balance b t who).toNat + amountAt (effect.taken? b.escrow) t who =
      (o.balance b t who).toNat + amountAt (b.given? effect) t who := by
  cases effect with
  | lockNative sender amount => exact Overlay.balance_transfer h below
  | pullTokens token sender amount permit =>
    obtain ⟨o₁, hdebit, hcredit⟩ := except_bind_eq_ok.1 h
    cases hcredit
    refine (congrArg (· + Entry.amountAt ⟨token, sender, amount⟩ t who)
      (Overlay.balance_credit below)).trans ?_
    rw [← Overlay.balance_debit hdebit t who]
    exact Nat.add_right_comm _ _ _
  | burnWrapped token sender amount =>
    obtain ⟨_, -, hdebit⟩ := except_bind_eq_ok.1 h
    exact Overlay.balance_debit hdebit t who
  | releaseNative receiver amount => exact Overlay.balance_transfer h below
  | releaseTokens token receiver amount => exact Overlay.balance_transfer h below
  | deployWrapped token metadata =>
    simp only [stage] at h
    split at h
    · cases h
    · cases h
      rfl
  | mintWrapped token receiver amount =>
    obtain ⟨_, -, hcredit⟩ := except_bind_eq_ok.1 h
    cases hcredit
    exact Overlay.balance_credit below
  | deliverMessage receiver originAddress originNetwork value payload =>
    rw [Effect.taken?, given?]
    obtain ⟨o₁, ⟨nothing, rfl⟩ | ⟨some, htransfer⟩, rfl⟩ := stage_deliverMessage_eq_ok h
    · rw [if_pos nothing, if_pos nothing]
      rfl
    · rw [if_neg some, if_neg some]
      have moved := Overlay.balance_transfer htransfer below
      exact moved

/-! ## One effect among others -/

theorem stage_of_still (still : effect.Still) (h : b.stage o effect = .ok o') :
    (∀ t who, o'.balance b t who = o.balance b t who) ∧ o'.pulled = o.pulled := by
  cases effect with
  | deployWrapped token metadata =>
    simp only [stage] at h
    split at h
    · cases h
    · cases h
      exact ⟨fun _ _ => rfl, rfl⟩
  | deliverMessage receiver originAddress originNetwork value payload =>
    obtain ⟨o₁, ⟨-, rfl⟩ | ⟨some, -⟩, rfl⟩ := stage_deliverMessage_eq_ok h
    · exact ⟨fun _ _ => rfl, rfl⟩
    · exact absurd still some
  | _ => exact still.elim

theorem foldlM_of_still (still : ∀ effect ∈ effects, effect.Still)
    (h : effects.foldlM b.stage o = .ok o') :
    (∀ t who, o'.balance b t who = o.balance b t who) ∧ o'.pulled = o.pulled := by
  induction effects generalizing o with
  | nil =>
    cases h
    exact ⟨fun _ _ => rfl, rfl⟩
  | cons effect effects ih =>
    rw [List.foldlM_cons] at h
    obtain ⟨o₁, hstage, hrest⟩ := except_bind_eq_ok.1 h
    obtain ⟨balance, pulled⟩ := stage_of_still (still effect List.mem_cons_self) hstage
    obtain ⟨balance', pulled'⟩ := ih (fun x hx => still x (List.mem_cons_of_mem _ hx)) hrest
    exact ⟨fun t who => (balance' t who).trans (balance t who), pulled'.trans pulled⟩

@[simp] theorem balance_empty (b : Book) (t who : Address) :
    Overlay.empty.balance b t who = b.balance t who := by
  simp [Overlay.balance, Overlay.empty]

@[simp] theorem balance_commit (b : Book) (o : Overlay) (t who : Address) :
    (b.commit o).balance t who = o.balance b t who := by
  rw [balance, commit, Overlay.balance]
  cases staged : o.balances[(t, who)]? with
  | none =>
    have untouched : (o.balances.toList.map Prod.fst).contains (t, who) = false := by
      rw [Std.HashMap.map_fst_toList_eq_keys, Std.HashMap.contains_keys,
        Std.HashMap.contains_eq_isSome_getElem?, staged]
      rfl
    rw [Std.HashMap.getD_insertMany_list_of_contains_eq_false untouched]
    rfl
  | some amount =>
    have hmem := Std.HashMap.mem_toList_iff_getElem?_eq_some.2 staged
    exact Std.HashMap.getD_insertMany_list_of_mem (beq_self_eq_true _)
      Std.HashMap.distinct_keys_toList hmem

theorem settings_of_apply (h : b.apply effects = .ok (receipt, b')) :
    b'.escrow = b.escrow ∧ b'.feeBps = b.feeBps := by
  obtain ⟨o, -, hcommit⟩ := except_bind_eq_ok.1 h
  cases hcommit
  exact ⟨rfl, rfl⟩

theorem balance_mint (b : Book) (token holder : Address) (amount : Amount) (t who : Address) :
    (b.mint token holder amount).balance t who =
      if token = t ∧ holder = who then (b.balance token holder).saturatingAdd amount
      else b.balance t who := by
  simp only [balance, mint, Std.HashMap.getD_insert, beq_iff_eq, Prod.mk.injEq]

theorem pulled_of_stage {sender : Address} {permit : Option Permit}
    (h : b.stage o (.pullTokens token sender amount permit) = .ok o') :
    o'.pulled = o.pulled + (amount - b.transferFee token amount) := by
  obtain ⟨o₁, hdebit, hcredit⟩ := except_bind_eq_ok.1 h
  cases hcredit
  rw [← Overlay.pulled_of_debit hdebit]
  rfl

/-- **A list of effects of which one moves something** takes and gives what that one says. -/
theorem balance_of_apply (h : b.apply (before ++ effect :: after) = .ok (receipt, b'))
    (still : ∀ x ∈ before ++ after, x.Still) : b.Reaches receipt effect ∧
      ∀ t who, b'.balance t who ≠ Amount.max →
        (b'.balance t who).toNat + amountAt (effect.taken? b.escrow) t who =
          (b.balance t who).toNat + amountAt (b.given? effect) t who := by
  obtain ⟨last, hfold, hcommit⟩ := except_bind_eq_ok.1 h
  cases hcommit
  rw [List.foldlM_append] at hfold
  obtain ⟨o, hbefore, hfold⟩ := except_bind_eq_ok.1 hfold
  rw [List.foldlM_cons] at hfold
  obtain ⟨o', hstage, hafter⟩ := except_bind_eq_ok.1 hfold
  obtain ⟨balance, pulled⟩ :=
    foldlM_of_still (fun x hx => still x (List.mem_append_left _ hx)) hbefore
  obtain ⟨balance', pulled'⟩ :=
    foldlM_of_still (fun x hx => still x (List.mem_append_right _ hx)) hafter
  constructor
  · cases effect with
    | pullTokens token sender amount permit =>
      show last.pulled = _
      rw [pulled', pulled_of_stage hstage, pulled]
      exact BitVec.zero_add _
    | _ => trivial
  · intro t who below
    rw [balance_commit, balance'] at below ⊢
    rw [balance_of_stage hstage below, balance, balance_empty]

theorem exists_debit (enough : amount ≤ b.balance token holder) :
    ∃ o, Overlay.empty.debit b token holder amount = .ok o := by
  have covered : ¬ Overlay.empty.balance b token holder < amount := by
    rw [balance_empty]
    exact BitVec.not_lt.2 enough
  exact ⟨_, if_neg covered⟩

theorem exists_lockNative {sender : Address} (enough : amount ≤ b.balance .zero sender) :
    ∃ b', b.apply [.lockNative sender amount] = .ok (⟨0⟩, b') ∧
      ∀ t who, (b'.balance t who).toNat ≤ (b.balance t who).toNat + amount.toNat := by
  obtain ⟨o, debited⟩ := exists_debit enough
  have staged : b.stage .empty (.lockNative sender amount) =
      .ok (o.credit b .zero b.escrow amount) := by
    rw [stage, Overlay.transfer, debited]
    rfl
  have applied : b.apply [.lockNative sender amount] =
      .ok (⟨o.pulled⟩, b.commit (o.credit b .zero b.escrow amount)) := by
    simp only [apply, List.foldlM_cons, List.foldlM_nil, staged]
    rfl
  rw [Overlay.pulled_of_debit debited] at applied
  refine ⟨_, applied, fun t who => ?_⟩
  have taken := Overlay.balance_debit debited t who
  rw [balance_empty] at taken
  rw [balance_commit, Overlay.credit, Overlay.balance_insert]
  split
  · rename_i same
    obtain ⟨rfl, rfl⟩ := same
    have le := Amount.toNat_saturatingAdd_le (o.balance b .zero b.escrow) amount
    omega
  · omega

theorem exists_apply_of_stage (h : b.stage .empty effect = .ok o) :
    ∃ receipt b', b.apply [effect] = .ok (receipt, b') := by
  refine ⟨⟨o.pulled⟩, b.commit o, ?_⟩
  simp only [apply, List.foldlM_cons, h]
  rfl

theorem exists_releaseNative (receiver : Address) (enough : amount ≤ b.balance .zero b.escrow) :
    ∃ receipt b', b.apply [.releaseNative receiver amount] = .ok (receipt, b') := by
  obtain ⟨o, debited⟩ := exists_debit enough
  refine exists_apply_of_stage (o := o.credit b .zero receiver amount) ?_
  rw [stage, Overlay.transfer, debited]
  rfl

theorem exists_releaseTokens (receiver : Address) (enough : amount ≤ b.balance token b.escrow) :
    ∃ receipt b', b.apply [.releaseTokens token receiver amount] = .ok (receipt, b') := by
  obtain ⟨o, debited⟩ := exists_debit enough
  refine exists_apply_of_stage (o := o.credit b token receiver amount) ?_
  rw [stage, Overlay.transfer, debited]
  rfl

theorem exists_pullTokens {sender : Address} (permit : Option Permit)
    (enough : amount ≤ b.balance token sender) :
    ∃ receipt b', b.apply [.pullTokens token sender amount permit] = .ok (receipt, b') := by
  obtain ⟨o, debited⟩ := exists_debit enough
  have staged : ∃ o', b.stage .empty (.pullTokens token sender amount permit) = .ok o' := by
    rw [stage, debited]
    exact ⟨_, rfl⟩
  obtain ⟨o', staged⟩ := staged
  exact exists_apply_of_stage staged

theorem exists_burnWrapped {sender : Address} (deployed : b.isDeployed token = true)
    (enough : amount ≤ b.balance token sender) :
    ∃ receipt b', b.apply [.burnWrapped token sender amount] = .ok (receipt, b') := by
  obtain ⟨o, debited⟩ := exists_debit enough
  refine exists_apply_of_stage (o := o) ?_
  rw [stage, Overlay.requireWrapped, isWrapped_empty, if_pos deployed]
  exact debited

theorem exists_mintWrapped (receiver : Address) (amount : Amount)
    (deployed : b.isDeployed token = true) :
    ∃ receipt b', b.apply [.mintWrapped token receiver amount] = .ok (receipt, b') := by
  refine exists_apply_of_stage (o := Overlay.empty.credit b token receiver amount) ?_
  rw [stage, Overlay.requireWrapped, isWrapped_empty, if_pos deployed]
  rfl

theorem exists_deployWrapped (metadata : Bytes) (receiver : Address) (amount : Amount)
    (free : b.isDeployed token = false) :
    ∃ receipt b', b.apply [.deployWrapped token metadata, .mintWrapped token receiver amount] =
      .ok (receipt, b') := by
  have staged : ∃ o, b.stage .empty (.deployWrapped token metadata) = .ok o := by
    rw [stage, isWrapped_empty, free]
    exact ⟨_, rfl⟩
  obtain ⟨o, staged⟩ := staged
  have wrapped : o.isWrapped b token = true := by
    obtain ⟨-, known, deployed⟩ := stage_deployWrapped_eq_ok staged
    simp [Overlay.isWrapped, deployed]
  refine ⟨⟨(o.credit b token receiver amount).pulled⟩, b.commit (o.credit b token receiver amount),
    ?_⟩
  have minted : b.stage o (.mintWrapped token receiver amount) =
      .ok (o.credit b token receiver amount) := by
    rw [stage, Overlay.requireWrapped, wrapped]
    rfl
  have applied : [.deployWrapped token metadata, .mintWrapped token receiver amount].foldlM b.stage
      .empty = .ok (o.credit b token receiver amount) := by
    rw [List.foldlM_cons, staged]
    exact (congrArg (· >>= pure) minted)
  rw [apply, applied]
  rfl

theorem le_balance_mint (b : Book) (token holder : Address) (amount : Amount) :
    amount ≤ (b.mint token holder amount).balance token holder := by
  rw [balance_mint, if_pos ⟨rfl, rfl⟩, BitVec.le_def, Amount.saturatingAdd]
  split
  · rename_i room
    rw [BitVec.toNat_add_of_lt room]
    omega
  · have bound := amount.isLt
    rw [Amount.max, BitVec.toNat_allOnes]
    omega

/-! ## The escrow -/

/-- What the escrow holds of a token. -/
def held (b : Book) (token : Address) : Nat := (b.balance token b.escrow).toNat

theorem amountAt_taken_escrow {escrow : Address} (receipt : ExecutionReceipt)
    (other : effect.party? ≠ some escrow) (t : Address) :
    amountAt (effect.taken? escrow) t escrow =
      if effect.releases? = some t then (effect.amount receipt).toNat else 0 := by
  cases effect with
  | deliverMessage receiver originAddress originNetwork value payload =>
    rw [Effect.taken?, Effect.releases?]
    split
    · rfl
    · simp [amountAt, Entry.amountAt, Effect.amount]
  | _ => simp_all [Effect.taken?, Effect.releases?, Effect.party?, amountAt, Entry.amountAt,
      Effect.amount]

theorem amountAt_given_escrow (other : effect.party? ≠ some b.escrow)
    (reaches : b.Reaches receipt effect) (t : Address) :
    amountAt (b.given? effect) t b.escrow =
      if effect.escrows? = some t then (effect.amount receipt).toNat else 0 := by
  cases effect with
  | deliverMessage receiver originAddress originNetwork value payload =>
    rw [given?]
    split
    · rfl
    · simp_all [Effect.escrows?, Effect.party?, amountAt, Entry.amountAt]
  | _ => simp_all [given?, Effect.escrows?, Effect.party?, Reaches, amountAt, Entry.amountAt,
      Effect.amount]

/-- **The escrow** of a token grows by what an effect brings in, and shrinks by what it hands
    out. -/
theorem escrow_of_apply (h : b.apply (before ++ effect :: after) = .ok (receipt, b'))
    (still : ∀ x ∈ before ++ after, x.Still) (other : effect.party? ≠ some b.escrow) (t : Address)
    (below : b'.balance t b.escrow ≠ Amount.max) :
    b'.held t + (if effect.releases? = some t then (effect.amount receipt).toNat else 0) =
      b.held t + if effect.escrows? = some t then (effect.amount receipt).toNat else 0 := by
  obtain ⟨reaches, moved⟩ := balance_of_apply h still
  rw [held, (settings_of_apply h).1, held, ← amountAt_taken_escrow receipt other,
    ← amountAt_given_escrow other reaches]
  exact moved t b.escrow below

/-! ## Supply -/

end Book

instance {n : Nat} : Fintype (FixedBytes n) :=
  Fintype.ofEquiv (List.Vector UInt8 n)
    { toFun := fun v => ⟨v.toList, v.toList_length⟩
      invFun := fun b => ⟨b.toList, b.length_toList⟩
      left_inv := fun _ => rfl
      right_inv := fun _ => rfl }

/-- The total of a token over all holders. -/
def Book.supply (b : Book) (token : Address) : Nat :=
  ∑ holder, (b.balance token holder).toNat

/-- What an entry counts for in the supply of a token; nothing if there is none. -/
def totalOf (e? : Option Entry) (token : Address) : Nat :=
  e?.elim 0 fun e => if e.token = token then e.amount.toNat else 0

theorem sum_amountAt (e? : Option Entry) (t : Address) :
    ∑ who, amountAt e? t who = totalOf e? t := by
  cases e? with
  | none => simp [amountAt, totalOf]
  | some e =>
    by_cases same : e.token = t
    · simp [amountAt, totalOf, Entry.amountAt, same]
    · simp [amountAt, totalOf, Entry.amountAt, same]

namespace Book

variable {b b' : Book} {effect : Effect} {before after : List Effect} {receipt : ExecutionReceipt}
  {t : Address}

/-- A token without a transfer fee is given as it is taken, but for what is made and destroyed. -/
theorem totalOf_given (receipt : ExecutionReceipt)
    (free : effect.pulls? = some t → b.feeBps.getD t 0 = 0) :
    totalOf (b.given? effect) t +
        (if effect.burns? = some t then (effect.amount receipt).toNat else 0) =
      totalOf (effect.taken? b.escrow) t +
        if effect.mints? = some t then (effect.amount receipt).toNat else 0 := by
  cases effect with
  | pullTokens token sender amount permit =>
    by_cases same : token = t
    · subst same
      have fee : b.transferFee token amount = 0 := by
        rw [transferFee, free rfl]
        simp
      simp [given?, Effect.taken?, Effect.burns?, Effect.mints?, totalOf, fee]
    · simp [given?, Effect.taken?, Effect.burns?, Effect.mints?, totalOf, same]
  | deliverMessage receiver originAddress originNetwork value payload =>
    rw [given?, Effect.taken?]
    split
    · rfl
    · rfl
  | _ => simp [given?, Effect.taken?, Effect.burns?, Effect.mints?, totalOf, Effect.amount]

/-- **The supply** of a token without a transfer fee grows by what an effect makes, and shrinks by
    what it destroys. -/
theorem supply_of_apply (h : b.apply (before ++ effect :: after) = .ok (receipt, b'))
    (still : ∀ x ∈ before ++ after, x.Still)
    (free : effect.pulls? = some t → b.feeBps.getD t 0 = 0)
    (below : ∀ who, b'.balance t who ≠ Amount.max) :
    b'.supply t + (if effect.burns? = some t then (effect.amount receipt).toNat else 0) =
      b.supply t + if effect.mints? = some t then (effect.amount receipt).toNat else 0 := by
  obtain ⟨-, moved⟩ := balance_of_apply h still
  have total : b'.supply t + totalOf (effect.taken? b.escrow) t =
      b.supply t + totalOf (b.given? effect) t := by
    rw [supply, supply, ← sum_amountAt, ← sum_amountAt, ← Finset.sum_add_distrib,
      ← Finset.sum_add_distrib]
    exact Finset.sum_congr rfl fun who _ => moved t who (below who)
  have same := totalOf_given receipt free
  omega

end Book

end ExitBridge
