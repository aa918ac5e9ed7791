/-
  The escrow and the supply of tokens balance.

  Every event of a deposit or claim tells of an amount that one effect has moved, so over any calls
  the escrow of a token changes by what the events tell of, and so does its total over all holders.

  * `toldBy`: what the events of a run tell of a token.
  * `Step.Covers`, `Step.Settles`: the value of a deposit or claim has reached or left the escrow, or
    was destroyed or made.
  * `Balanced`: the accounts of a run; `Trail.balanced`.
  * `escrow_and_supply_balance`: over all sessions.
-/
import ExitBridge.Proofs.Execution.Balance
import ExitBridge.Proofs.Session.Payment
import ExitBridge.Proofs.Session.Atomic

namespace ExitBridge

open LedgerM

/-! ## What events tell of -/

section

variable {σ : Type} [ExecutionHost σ]

/-- What the event of a call tells of a token that the call has moved in this way. -/
def Step.told (D : Deployment) (moved : Effect → Option Address) (t : Address) (m : Step σ) : Nat :=
  if ∃ effect ∈ m.effects D, moved effect = some t then (m.amount D).toNat else 0

/-- What the events of a run tell of a token that was moved in this way. -/
def toldBy (D : Deployment) (moved : Effect → Option Address) (t : Address) (run : List (Step σ)) :
    Nat :=
  (run.map (·.told D moved t)).sum

@[simp] theorem toldBy_nil (D : Deployment) (moved : Effect → Option Address) (t : Address) :
    toldBy D moved t ([] : List (Step σ)) = 0 := rfl

@[simp] theorem toldBy_singleton (D : Deployment) (moved : Effect → Option Address) (t : Address)
    (m : Step σ) : toldBy D moved t [m] = m.told D moved t := by simp [toldBy]

@[simp] theorem toldBy_append (D : Deployment) (moved : Effect → Option Address) (t : Address)
    (run run' : List (Step σ)) :
    toldBy D moved t (run ++ run') = toldBy D moved t run + toldBy D moved t run' := by
  simp [toldBy]

variable {D : Deployment} {m : Step σ} {before after : List Effect} {effect : Effect}
  {receipt : ExecutionReceipt}

theorem Step.Idles.told (h : m.Idles D) (moved : Effect → Option Address) (t : Address) :
    m.told D moved t = 0 := by
  simp [Step.told, h.effects]

/-- Of the effects of a call that moves value, only one counts. -/
theorem Step.Pays.told (h : m.Pays D before effect after receipt)
    {moved : Effect → Option Address} (still : ∀ {x : Effect}, x.Still → moved x = none)
    (t : Address) :
    m.told D moved t = if moved effect = some t then (effect.amount receipt).toNat else 0 := by
  have only : (∃ x ∈ m.effects D, moved x = some t) ↔ moved effect = some t := by
    rw [h.effects]
    constructor
    · rintro ⟨x, hx, moves⟩
      rcases List.mem_append.1 hx with early | late
      · rw [still (h.still x (List.mem_append_left _ early))] at moves
        cases moves
      · rcases List.mem_cons.1 late with rfl | late
        · exact moves
        · rw [still (h.still x (List.mem_append_right _ late))] at moves
          cases moves
    · exact fun moves => ⟨effect, by simp, moves⟩
  rw [Step.told, if_congr only rfl rfl, h.amount]

end

/-! ## Steps -/

variable {D : Deployment} {m : Step Book} {before after : List Effect} {effect : Effect}
  {receipt : ExecutionReceipt}

/-- The value that a deposit tells of has reached the escrow, or was destroyed; or it tells of
    none. -/
def Step.Covers (D : Deployment) (m : Step Book) (e : BridgeEvent) : Prop :=
  (m.effects D = [] ∧ e.amount = 0) ∨
  (∃ t, (∃ effect ∈ m.effects D, effect.escrows? = some t) ∧
    (m.after D).host.held t = m.before.host.held t + e.amount.toNat) ∨
  ∃ t sender, (∃ effect ∈ m.effects D, effect.burns? = some t) ∧ m.call.party? = some sender ∧
    ((m.after D).host.balance t sender).toNat + e.amount.toNat =
      (m.before.host.balance t sender).toNat

/-- The amount of a claim has left the escrow, or was made for the receiver; or it is nothing. -/
def Step.Settles (D : Deployment) (m : Step Book) (c : Claim) : Prop :=
  c.amount = 0 ∨
  (∃ t, (∃ effect ∈ m.effects D, effect.releases? = some t) ∧
    (m.after D).host.held t + c.amount.toNat = m.before.host.held t) ∨
  ∃ t, (∃ effect ∈ m.effects D, effect.mints? = some t) ∧
    ((m.after D).host.balance t c.destinationAddress).toNat =
      (m.before.host.balance t c.destinationAddress).toNat + c.amount.toNat

/-- The accounts of a run: what the escrow holds of a token, and the supply of a token without a
    transfer fee, have changed by what the events tell of. -/
structure Balanced (D : Deployment) (start : BridgeState Book) (run : List (Step Book))
    (now : BridgeState Book) : Prop where
  escrow : now.host.escrow = start.host.escrow
  feeBps : now.host.feeBps = start.host.feeBps
  held : ∀ t, now.host.held t + toldBy D Effect.releases? t run =
    start.host.held t + toldBy D Effect.escrows? t run
  supply : ∀ t, (start.host.feeBps.getD t 0 = 0 ∨ D.weth = some t) →
    now.host.supply t + toldBy D Effect.burns? t run =
      start.host.supply t + toldBy D Effect.mints? t run
  covered : ∀ m ∈ run, ∀ e, m.deposit? D = some e → m.Covers D e
  settled : ∀ m ∈ run, ∀ kind c, m.claim? D = some (kind, c) → m.Settles D c

theorem Step.Idles.balanced (h : m.Idles D) : Balanced D m.before [m] (m.after D) where
  escrow := by rw [h.host]
  feeBps := by rw [h.host]
  held t := by simp [h.host, h.told]
  supply t _ := by simp [h.host, h.told]
  covered := by
    intro m' hm' e made
    obtain rfl := List.mem_singleton.1 hm'
    have amount := h.amount
    rw [Step.amount, made] at amount
    exact .inl ⟨h.effects, amount⟩
  settled := by
    intro m' hm' kind c honoured
    obtain rfl := List.mem_singleton.1 hm'
    rw [h.claim] at honoured
    cases honoured

/-- The effect of a deposit brings its amount into the escrow, or destroys it. -/
theorem Step.Pays.covers (h : m.Pays D before effect after receipt)
    (apart : m.call.party? ≠ some m.before.host.escrow)
    (below : ∀ t holder, (m.after D).host.balance t holder ≠ Amount.max) {e : BridgeEvent}
    (made : m.deposit? D = some e) : m.Covers D e := by
  have amount : e.amount = effect.amount receipt := by
    rw [← h.amount, Step.amount, made]
  have listed : effect ∈ m.effects D := by simp [h.effects]
  obtain ⟨t, escrows | burns⟩ := (h.taken e made).token
  · have held := Book.escrow_of_apply h.applied h.still (h.party ▸ apart) t
    rw [Effect.releases?_of_escrows? escrows, if_neg (by simp), if_pos escrows, ← amount] at held
    exact .inr (.inl ⟨t, ⟨effect, listed, escrows⟩, held (below _ _)⟩)
  · obtain ⟨sender, party, taken, given⟩ := Book.taken?_of_burns? burns m.before.host receipt
    have moved := (Book.balance_of_apply h.applied h.still).2 t sender (below t sender)
    rw [taken, given, ← amount] at moved
    refine .inr (.inr ⟨t, sender, ⟨effect, listed, burns⟩, h.party ▸ party, ?_⟩)
    simpa [amountAt, Entry.amountAt] using moved

/-- The effect of a claim hands its amount out of the escrow, or makes it for the receiver. -/
theorem Step.Pays.settles (h : m.Pays D before effect after receipt)
    (apart : m.call.party? ≠ some m.before.host.escrow)
    (below : ∀ t holder, (m.after D).host.balance t holder ≠ Amount.max) {kind : LeafKind}
    {c : Claim} (honoured : m.claim? D = some (kind, c)) : m.Settles D c := by
  have paid := h.paid kind c honoured
  have listed : effect ∈ m.effects D := by simp [h.effects]
  obtain nothing | ⟨t, releases | mints⟩ := paid.token
  · exact .inl nothing
  · have held := Book.escrow_of_apply h.applied h.still (h.party ▸ apart) t
    rw [if_pos releases, Effect.escrows?_of_releases? releases, if_neg nofun, paid.amount] at held
    exact .inr (.inl ⟨t, ⟨effect, listed, releases⟩, held (below _ _)⟩)
  · obtain ⟨given, taken⟩ := Book.given?_of_mints? mints paid.party m.before.host receipt
    have moved := (Book.balance_of_apply h.applied h.still).2 t c.destinationAddress (below _ _)
    rw [taken, given, paid.amount] at moved
    refine .inr (.inr ⟨t, ⟨effect, listed, mints⟩, ?_⟩)
    simpa [amountAt, Entry.amountAt] using moved

/-- One effect that moves value changes the accounts by what its event tells of. -/
theorem Step.Pays.balanced (h : m.Pays D before effect after receipt)
    (apart : m.call.party? ≠ some m.before.host.escrow)
    (below : ∀ t holder, (m.after D).host.balance t holder ≠ Amount.max) :
    Balanced D m.before [m] (m.after D) where
  escrow := (Book.settings_of_apply h.applied).1
  feeBps := (Book.settings_of_apply h.applied).2
  held t := by
    rw [toldBy_singleton, toldBy_singleton, h.told (fun still => still.moves_none.2.1),
      h.told (fun still => still.moves_none.1)]
    exact Book.escrow_of_apply h.applied h.still (h.party ▸ apart) t (below _ _)
  supply t free := by
    rw [toldBy_singleton, toldBy_singleton, h.told (fun still => still.moves_none.2.2.1),
      h.told (fun still => still.moves_none.2.2.2)]
    refine Book.supply_of_apply h.applied h.still (fun pulls => ?_) (below t)
    -- wrapped ether is burned, never pulled
    exact free.resolve_right (h.notWeth t pulls)
  covered := by
    intro m' hm' e made
    obtain rfl := List.mem_singleton.1 hm'
    exact h.covers apart below made
  settled := by
    intro m' hm' kind c honoured
    obtain rfl := List.mem_singleton.1 hm'
    exact h.settles apart below honoured

theorem Step.idles_of_error {e : LedgerError} (backed : m.before.Backed)
    (refused : m.answer D = .error e) : m.Idles D := by
  obtain ⟨same, carried⟩ := backed.eq_of_error (answer_eq_error.1 refused)
  have claim : m.claim? D = none := by rw [Step.claim?, refused]
  refine ⟨by rw [Step.effects, carried]; rfl, by rw [same], ?_, claim⟩
  rw [Step.amount, Step.deposit?, Step.receipt?, refused, claim]
  rfl

/-- **One call** changes the accounts by what its event tells of. -/
theorem Step.balanced (backed : m.before.Backed)
    (apart : m.call.party? ≠ some m.before.host.escrow)
    (below : ∀ t holder, (m.after D).host.balance t holder ≠ Amount.max) :
    Balanced D m.before [m] (m.after D) := by
  cases answered : m.answer D with
  | error e => exact (Step.idles_of_error backed answered).balanced
  | ok answer =>
    rcases Step.idles_or_pays answered with idles | ⟨before, effect, after, receipt, pays⟩
    · exact idles.balanced
    · exact pays.balanced apart below

/-! ## Runs -/

theorem Balanced.refl (D : Deployment) (s : BridgeState Book) : Balanced D s [] s where
  escrow := rfl
  feeBps := rfl
  held t := by rw [toldBy_nil, toldBy_nil]
  supply t _ := by rw [toldBy_nil, toldBy_nil]
  covered _ hm := absurd hm List.not_mem_nil
  settled _ hm := absurd hm List.not_mem_nil

theorem Balanced.trans {s s₁ s' : BridgeState Book} {run run' : List (Step Book)}
    (h : Balanced D s run s₁) (h' : Balanced D s₁ run' s') : Balanced D s (run ++ run') s' where
  escrow := h'.escrow.trans h.escrow
  feeBps := h'.feeBps.trans h.feeBps
  held t := by
    have first := h.held t
    have second := h'.held t
    rw [toldBy_append, toldBy_append]
    omega
  supply t free := by
    have first := h.supply t free
    have second := h'.supply t (h.feeBps ▸ free)
    rw [toldBy_append, toldBy_append]
    omega
  covered m hm e made := by
    rcases List.mem_append.1 hm with old | new
    · exact h.covered m old e made
    · exact h'.covered m new e made
  settled m hm kind c honoured := by
    rcases List.mem_append.1 hm with old | new
    · exact h.settled m old kind c honoured
    · exact h'.settled m new kind c honoured

variable {past run : List (Step Book)} {start now : BridgeState Book}

/-- **The accounts of a run balance.** -/
theorem Trail.balanced (trail : Trail D start run now)
    (session : Session D Book.Handled past start)
    (apart : ∀ m ∈ run, m.call.party? ≠ some start.host.escrow)
    (below : ∀ m ∈ run, ∀ t holder, (m.after D).host.balance t holder ≠ Amount.max) :
    Balanced D start run now := by
  induction trail with
  | nil => exact .refl D start
  | @call run m trail ih =>
    have earlier := ih (fun x hx => apart x (List.mem_append_left _ hx))
      (fun x hx => below x (List.mem_append_left _ hx))
    have last : m ∈ run ++ [m] := List.mem_append_right _ (List.mem_singleton_self m)
    refine earlier.trans (Step.balanced (trail.session session).backed ?_ (below m last))
    rw [earlier.escrow]
    exact apart m last

/-- A journal that keeps all events tells of the deposits and claims of a run, in turn. -/
theorem Trail.journal (trail : Trail D start run now)
    (session : Session D Book.Handled past start) (unbounded : D.config.journalRetention = none) :
    now.ledger.journal.deposits =
        start.ledger.journal.deposits ++ run.filterMap (·.deposit? D) ∧
      now.ledger.journal.claims =
        start.ledger.journal.claims ++ (run.filterMap (·.claim? D)).map (·.2.event) := by
  have longer := trail.session session
  have kept := longer.retention_journal unbounded
  have kept₀ := session.retention_journal unbounded
  constructor
  · rw [longer.depositing.told kept, session.depositing.told kept₀, takenBy, takenBy,
      List.filterMap_append]
  · rw [longer.claiming.told kept, session.claiming.told kept₀, List.filterMap_append,
      List.map_append]

/-! ## Escrow and supply -/

/-- **Escrow and supply balance.** Let a ledger run over a book whose escrow is the bridge, from any
    state, and let no call take from the bridge or pay it and no balance reach the largest amount.
    Then of every token, the escrow holds what it held and what deposits tell to have brought in,
    less what claims tell to have handed out, which is never more. Of every token without a transfer
    fee, and of wrapped ether, the total over all holders is what it was and what claims tell to
    have made, less what deposits tell to have destroyed. The value of each deposit has reached the
    escrow or was destroyed, that of each claim has left the escrow or was made; and a journal that
    keeps all events tells of these deposits and claims. -/
theorem escrow_and_supply_balance (session : Session D Book.Handled past start)
    (trail : Trail D start run now) (escrow : start.host.escrow = D.config.bridgeAddress)
    (apart : ∀ m ∈ run, m.call.party? ≠ some D.config.bridgeAddress)
    (below : ∀ m ∈ run, ∀ t holder,
      ((m.after D).host.balance t holder).toNat ≠ 2 ^ 256 - 1) :
    let held (s : BridgeState Book) (t : Address) := (s.host.balance t D.config.bridgeAddress).toNat
    (∀ t, held now t + toldBy D Effect.releases? t run =
      held start t + toldBy D Effect.escrows? t run) ∧
    (∀ t, toldBy D Effect.releases? t run ≤ held start t + toldBy D Effect.escrows? t run) ∧
    (∀ t, (start.host.feeBps.getD t 0 = 0 ∨ D.weth = some t) →
      now.host.supply t + toldBy D Effect.burns? t run =
        start.host.supply t + toldBy D Effect.mints? t run) ∧
    (∀ m ∈ run, ∀ e, m.deposit? D = some e → m.Covers D e) ∧
    (∀ m ∈ run, ∀ kind c, m.claim? D = some (kind, c) → m.Settles D c) ∧
    (D.config.journalRetention = none →
      now.ledger.journal.deposits =
          start.ledger.journal.deposits ++ run.filterMap (·.deposit? D) ∧
        now.ledger.journal.claims =
          start.ledger.journal.claims ++ (run.filterMap (·.claim? D)).map (·.2.event)) := by
  intro held
  have balanced := trail.balanced session (escrow ▸ apart) fun m hm t holder =>
    Amount.ne_max_iff.2 (below m hm t holder)
  have escrows (t : Address) : held now t + toldBy D Effect.releases? t run =
      held start t + toldBy D Effect.escrows? t run := by
    have same := balanced.held t
    rwa [Book.held, Book.held, balanced.escrow, escrow] at same
  refine ⟨escrows, fun t => ?_, balanced.supply, balanced.covered, balanced.settled,
    trail.journal session⟩
  rw [← escrows t]
  exact Nat.le_add_left _ _

/-! ## A first deposit -/

theorem Book.exists_lock_three {escrow sender : Address} (other : sender ≠ escrow) :
    ∃ b, ((Book.empty escrow).mint .zero sender 5).apply [.lockNative sender 3] = .ok (⟨0⟩, b) ∧
      (∀ t who, b.balance t who ≠ Amount.max) ∧ (b.balance .zero escrow).toNat = 3 := by
  have owned (t who : Address) : ((Book.empty escrow).mint .zero sender 5).balance t who =
      if .zero = t ∧ sender = who then 5 else 0 := by
    rw [Book.balance_mint]
    simp [Book.balance, Book.empty, Amount.saturatingAdd]
  have enough : 3 ≤ ((Book.empty escrow).mint .zero sender 5).balance .zero sender := by
    rw [owned, if_pos ⟨rfl, rfl⟩]
    decide
  obtain ⟨b, applied, most⟩ := Book.exists_lockNative enough
  have below (t who : Address) : b.balance t who ≠ Amount.max := by
    intro full
    have few : (((Book.empty escrow).mint .zero sender 5).balance t who).toNat ≤ 5 := by
      rw [owned]
      split <;> decide
    have little := (most t who).trans (Nat.add_le_add_right few _)
    rw [full] at little
    exact absurd little (by decide)
  have one : ((Book.empty escrow).mint .zero sender 5).apply ([] ++ .lockNative sender 3 :: []) =
      .ok (⟨0⟩, b) := applied
  have moved := (Book.balance_of_apply one (by simp)).2 .zero escrow (below _ _)
  refine ⟨b, applied, below, ?_⟩
  rw [owned, if_neg fun same => other same.2] at moved
  simpa [Effect.taken?, Book.given?, amountAt, Entry.amountAt, Book.mint, Book.empty, other]
    using moved

/-- An account that holds five locks three of them. -/
theorem escrow_and_supply_balance_first :
    ∃ (D : Deployment) (start : BridgeState Book) (m : Step Book) (e : BridgeEvent),
      Session D Book.Handled [] start ∧ Trail D start [m] (m.after D) ∧
      (m.after D).ledger.journal.deposits = [e] ∧ e.amount = 3 ∧ m.Covers D e ∧
      ((m.after D).host.balance .zero D.config.bridgeAddress).toNat = 3 := by
  let sender : Address := ⟨List.replicate 20 0xa1, rfl⟩
  let config := LedgerConfig.standard
  let D : Deployment :=
    ⟨.keccak, config, ⟨config.bridgeAddress, config.wrappedTokenTemplate, .ofSalt⟩, none⟩
  let book := (Book.empty config.bridgeAddress).mint .zero sender 5
  let start : BridgeState Book := ⟨Deployment.genesis config, book⟩
  let d : AssetDeposit := ⟨1, sender, 3, .zero, 3, false, none⟩
  let m : Step Book := ⟨start, .bridgeAsset sender d ⟨0, .zero⟩⟩
  have session : Session D Book.Handled [] start :=
    .host (.start (Deployment.create_of_validate
      (LedgerConfig.validate_authority 0 (by decide)) rfl)) (.mint .zero sender 5)
  obtain ⟨host, applied, below, held⟩ := Book.exists_lock_three
    (show sender ≠ config.bridgeAddress by decide)
  have resolved : resolveAsset D start.ledger.wrapped (ExecutionHost.tokenMetadata book .zero)
      sender d = .ok ⟨0, .zero, [], .lockNative sender 3, false⟩ := rfl
  obtain ⟨receipt, s', hrun, rfl⟩ : ∃ receipt s',
      bridgeAsset D sender d ⟨0, .zero⟩ start = .ok receipt s' ∧ s'.host = host :=
    exists_bridgeAsset _ rfl (by decide) rfl (absurd · Bool.false_ne_true) resolved applied
  have run : m.call.run D m.before = .ok (.deposit receipt) s' :=
    map_eq_ok.2 ⟨receipt, hrun, rfl⟩
  have after : m.after D = s' := by rw [Step.after, run]
  rw [← after] at below held
  let e : BridgeEvent :=
    ⟨.asset, 0, .zero, 1, sender, receipt.amount, [], receipt.depositCount⟩
  have made : m.deposit? D = some e := by
    rw [Step.deposit?, Step.receipt?, Step.answer_eq_ok.2 (after ▸ run)]
    rfl
  have amount : e.amount = 3 := by
    obtain ⟨asset, moved, host, resolved', -, amount⟩ := bridgeAsset_amount hrun
    obtain rfl := Except.ok.inj (resolved.symm.trans resolved')
    exact amount
  have trail : Trail D start ([] ++ [m]) (m.after D) := .call .nil
  obtain ⟨-, -, -, covered, -, told⟩ := escrow_and_supply_balance session trail rfl
    (fun x hx => by obtain rfl := List.mem_singleton.1 hx; decide)
    (fun x hx t holder => by
      obtain rfl := List.mem_singleton.1 hx
      exact Amount.ne_max_iff.1 (below t holder))
  refine ⟨D, start, m, e, session, trail, ?_, amount, covered m List.mem_cons_self e made, held⟩
  rw [(told rfl).1, List.nil_append, List.filterMap_cons_some made]
  rfl

end ExitBridge
