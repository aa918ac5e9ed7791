/-
  How the steps of operations end.

  Each step of `LedgerM` has two lemmas: what it means that the step succeeds in a state, and what
  it means that it fails in one. Operations are taken apart with them, and never unfolded further.

  * `bind_eq_ok`, `bind_eq_error`: one step after another.
  * `perform_eq_ok`, `perform_eq_error`: the host's part never touches the ledger.
-/
import ExitBridge.Ledger.Admin
import ExitBridge.Ledger.Claim
import ExitBridge.Ledger.Deposit

namespace ExitBridge

namespace LedgerM

variable {σ α β : Type} {s s' : BridgeState σ} {e e' : LedgerError}

/-! ## Sequences -/

theorem bind_eq_ok {x : LedgerM σ α} {f : α → LedgerM σ β} {b : β} :
    (x >>= f) s = .ok b s' ↔ ∃ a s₁, x s = .ok a s₁ ∧ f a s₁ = .ok b s' := by
  show EStateM.bind x f s = _ ↔ _
  rw [EStateM.bind]
  cases x s with
  | ok a s₁ =>
    constructor
    · exact fun h => ⟨a, s₁, rfl, h⟩
    · rintro ⟨_, _, ⟨⟩, h⟩
      exact h
  | error e s₁ => simp

theorem bind_eq_error {x : LedgerM σ α} {f : α → LedgerM σ β} :
    (x >>= f) s = .error e s' ↔
      x s = .error e s' ∨ ∃ a s₁, x s = .ok a s₁ ∧ f a s₁ = .error e s' := by
  show EStateM.bind x f s = _ ↔ _
  rw [EStateM.bind]
  cases x s with
  | ok a s₁ =>
    constructor
    · exact fun h => .inr ⟨a, s₁, rfl, h⟩
    · rintro (⟨⟨⟩⟩ | ⟨_, _, ⟨⟩, h⟩)
      exact h
  | error e s₁ => simp

theorem pure_eq_ok {a b : α} : (pure a : LedgerM σ α) s = .ok b s' ↔ a = b ∧ s = s' := by
  show EStateM.Result.ok a s = _ ↔ _
  simp

theorem pure_eq_error {a : α} : (pure a : LedgerM σ α) s = .error e s' ↔ False := by
  show EStateM.Result.ok a s = _ ↔ _
  simp

theorem map_eq_ok {x : LedgerM σ α} {f : α → β} {b : β} :
    (f <$> x) s = .ok b s' ↔ ∃ a, x s = .ok a s' ∧ f a = b := by
  show EStateM.map f x s = _ ↔ _
  rw [EStateM.map]
  cases x s with
  | ok a s₁ =>
    constructor
    · rintro ⟨⟩
      exact ⟨a, rfl, rfl⟩
    · rintro ⟨_, ⟨⟩, rfl⟩
      rfl
  | error e s₁ => simp

theorem map_eq_error {x : LedgerM σ α} {f : α → β} :
    (f <$> x) s = .error e s' ↔ x s = .error e s' := by
  show EStateM.map f x s = _ ↔ _
  rw [EStateM.map]
  cases x s with
  | ok a s₁ => simp
  | error e s₁ => simp

theorem discard_eq_ok {x : LedgerM σ α} {u : Unit} :
    (discard x) s = .ok u s' ↔ ∃ a, x s = .ok a s' :=
  map_eq_ok.trans (by simp)

theorem discard_eq_error {x : LedgerM σ α} : (discard x) s = .error e s' ↔ x s = .error e s' :=
  map_eq_error

/-! ## Single steps -/

theorem ledger_eq_ok {l : Ledger} : (ledger : LedgerM σ Ledger) s = .ok l s' ↔
    s.ledger = l ∧ s = s' := by
  simp [ledger]

theorem ledger_eq_error : (ledger : LedgerM σ Ledger) s = .error e s' ↔ False := by
  simp [ledger]

theorem get_eq_ok {s₁ : BridgeState σ} : (get : LedgerM σ (BridgeState σ)) s = .ok s₁ s' ↔
    s = s₁ ∧ s = s' := by
  show EStateM.Result.ok s s = _ ↔ _
  simp

theorem get_eq_error : (get : LedgerM σ (BridgeState σ)) s = .error e s' ↔ False := by
  show EStateM.Result.ok s s = _ ↔ _
  simp

theorem change_eq_ok {f : Ledger → Ledger} {u : Unit} :
    (change f : LedgerM σ Unit) s = .ok u s' ↔ { s with ledger := f s.ledger } = s' := by
  simp [change]

theorem change_eq_error {f : Ledger → Ledger} :
    (change f : LedgerM σ Unit) s = .error e s' ↔ False := by
  simp [change]

theorem emit_eq_ok {event : Event} {u : Unit} : (emit event : LedgerM σ Unit) s = .ok u s' ↔
    { s with ledger := { s.ledger with journal := s.ledger.journal.push event } } = s' :=
  change_eq_ok

theorem emit_eq_error {event : Event} : (emit event : LedgerM σ Unit) s = .error e s' ↔ False :=
  change_eq_error

theorem ofResult_eq_ok {r : Except LedgerError α} {a : α} :
    (ofResult r : LedgerM σ α) s = .ok a s' ↔ r = .ok a ∧ s = s' := by
  cases r <;> simp [ofResult]

theorem ofResult_eq_error {r : Except LedgerError α} :
    (ofResult r : LedgerM σ α) s = .error e s' ↔ r = .error e ∧ s = s' := by
  cases r <;> simp [ofResult]

theorem require_eq_ok {condition : Bool} {u : Unit} :
    (require condition e' : LedgerM σ Unit) s = .ok u s' ↔ condition = true ∧ s = s' := by
  cases condition <;> simp [require]

theorem require_eq_error {condition : Bool} :
    (require condition e' : LedgerM σ Unit) s = .error e s' ↔
      condition = false ∧ e' = e ∧ s = s' := by
  cases condition <;> simp [require]

theorem throw_eq_ok {a : α} : (throw e' : LedgerM σ α) s = .ok a s' ↔ False := by
  show EStateM.Result.error e' s = _ ↔ _
  simp

theorem throw_eq_error : (throw e' : LedgerM σ α) s = .error e s' ↔ e' = e ∧ s = s' := by
  show EStateM.Result.error e' s = _ ↔ _
  simp

section Host

variable [ExecutionHost σ] {blame : String → LedgerError} {effects : List Effect}

theorem perform_eq_ok {receipt : ExecutionReceipt} :
    perform blame effects s = .ok receipt s' ↔
      ∃ host, ExecutionHost.apply s.host effects = .ok (receipt, host) ∧
        { s with host := host } = s' := by
  rw [perform]
  cases ExecutionHost.apply s.host effects with
  | ok answer => simp [Prod.ext_iff, and_assoc]
  | error e => simp

theorem perform_eq_error : perform blame effects s = .error e s' ↔
    ∃ refusal, ExecutionHost.apply s.host effects = .error refusal ∧ blame refusal.message = e ∧
      s = s' := by
  rw [perform]
  cases ExecutionHost.apply s.host effects with
  | ok answer => simp
  | error refusal => simp

theorem eq_of_perform_error (h : perform blame effects s = .error e s') : s' = s := by
  obtain ⟨_, -, -, rfl⟩ := perform_eq_error.1 h
  rfl

end Host

end LedgerM

end ExitBridge
