/-
  What a call tells, whatever the journal keeps.

  A bounded journal may forget an event before the call that adds it has ended. So what a call tells
  is read off the same call over an empty journal that forgets nothing; the journal that it is made
  over gets the same events.

  * `Mirror.told`: two journals, each with the same events behind it.
  * `BridgeState.unbounded`, `Step.events`: what a call tells.
  * `Step.exists_told`: the moves of a call, which are told of in turn.
-/
import ExitBridge.Proofs.Ledger.Mirror
import ExitBridge.Proofs.Ledger.Session

namespace ExitBridge

/-! ## Over another journal -/

namespace Ledger

variable {D : Deployment} {l l' : Ledger} {m : Move} {moves : List Move}

/-- A move is the same over any journal, and adds the same events. -/
theorem Moves.withJournal (h : l.Moves D m l') (j : Journal) :
    Moves D { l with journal := j } m { l' with journal := j.pushAll m.events } := by
  cases h with
  | append count appended => exact .append count appended
  | publish recorded => exact .publish recorded
  | fold authority updated => exact .fold authority updated
  | learn replica => exact .learn replica
  | register registered => exact .register registered
  | mark marked => exact .mark marked
  | toggle was => exact .toggle was

theorem Chain.eq_of_nil (h : l.Chain D [] l') : l' = l := by
  cases h
  rfl

theorem Chain.withJournal (h : l.Chain D moves l') (j : Journal) :
    Chain D { l with journal := j } moves
      { l' with journal := j.pushAll (moves.flatMap Move.events) } := by
  induction h generalizing j with
  | nil => exact .nil
  | @cons l l₁ l' m moves first _ ih =>
    rw [List.flatMap_cons, Journal.pushAll, List.foldl_append]
    exact .cons (first.withJournal j) (ih (j.pushAll m.events))

end Ledger

theorem Move.filterMap_flatMap_events {α : Type} {told : Event → Option α} {tells : Move → Option α}
    (each : ∀ m : Move, m.events.filterMap told = (tells m).toList) (moves : List Move) :
    (moves.flatMap Move.events).filterMap told = moves.filterMap tells := by
  rw [List.filterMap_flatMap, List.filterMap_eq_flatMap_toList]
  simp only [each]

namespace BridgeState

variable {σ : Type}

/-- The state with another journal. -/
def withJournal (s : BridgeState σ) (j : Journal) : BridgeState σ :=
  { s with ledger := { s.ledger with journal := j } }

/-- The state with an empty journal that will forget nothing. -/
def unbounded (s : BridgeState σ) : BridgeState σ := s.withJournal (.empty none)

end BridgeState

namespace Call

variable {σ : Type} [ExecutionHost σ] {D : Deployment} {s : BridgeState σ} {host : σ} {call : Call}
  {answer : Answer} {moves : List Move}

theorem Deposits.withJournal {receipt : DepositReceipt} {e : BridgeEvent}
    (h : call.Deposits D s receipt e host) (j : Journal) :
    call.Deposits D (s.withJournal j) receipt e host := by
  have event : call.deposit? D (s.withJournal j) receipt = call.deposit? D s receipt := by
    cases call <;> rfl
  have effect : call.effect? D (s.withJournal j) = call.effect? D s := by
    cases call <;> rfl
  exact ⟨h.operational, event ▸ h.event, h.leaves, effect ▸ h.carried⟩

theorem Makes.withJournal (h : call.Makes D s answer moves host) (j : Journal) :
    call.Makes D (s.withJournal j) answer moves host := by
  cases h with
  | deposit deposits quiet told => exact .deposit (deposits.withJournal j) quiet told
  | depositPublished deposits loud dated told =>
    exact .depositPublished (deposits.withJournal j) loud dated told
  | claim honours =>
    exact .claim
      ⟨honours.operational, honours.verified, honours.free, honours.told, honours.carried⟩
  | publish => exact .publish
  | fold => exact .fold
  | importRoot => exact .importRoot
  | ingest => exact .ingest
  | activate => exact .activate
  | deactivate => exact .deactivate

end Call

/-! ## Events -/

/-- A host against itself, over two journals with the same events behind each. -/
def Mirror.told (σ : Type) [ExecutionHost σ] (j j' : Journal) : Mirror σ σ where
  hosts := Eq
  journals k k' := ∃ events, k = j.pushAll events ∧ k' = j'.pushAll events
  push := by
    rintro _ _ e ⟨events, rfl, rfl⟩
    exact ⟨events ++ [e], by simp [Journal.pushAll], by simp [Journal.pushAll]⟩
  tokenMetadata token same := congrArg (ExecutionHost.tokenMetadata · token) same
  apply := by
    rintro h _ effects rfl
    cases ExecutionHost.apply h effects with
    | ok answer => exact .ok rfl
    | error refusal => exact .error

namespace Step

variable {σ τ : Type} [ExecutionHost σ] [ExecutionHost τ] {D : Deployment}

theorem alike_after {M : Mirror σ τ} {s : BridgeState σ} {t : BridgeState τ} (alike : M.Alike s t)
    (D : Deployment) (call : Call) :
    answer D ⟨s, call⟩ = answer D ⟨t, call⟩ ∧ M.Alike (after D ⟨s, call⟩) (after D ⟨t, call⟩) := by
  have ends := M.reflects_run D call s t alike
  unfold answer after
  generalize call.run D s = r at ends ⊢
  generalize call.run D t = r' at ends ⊢
  cases ends with
  | ok alike' => exact ⟨rfl, alike'⟩
  | error alike' => exact ⟨rfl, alike'⟩

/-- What a call tells. -/
def events (D : Deployment) (m : Step σ) : List Event :=
  (after D ⟨m.before.unbounded, m.call⟩).ledger.journal.events.toList

/-- The moves of a step are told of in turn, whatever the journal keeps; a call that fails makes
    none. -/
theorem exists_told (D : Deployment) (m : Step σ) :
    ∃ moves, m.before.ledger.Chain D moves (m.after D).ledger ∧
      m.events D = moves.flatMap Move.events ∧
      ((∃ answer, m.answer D = .ok answer ∧
          m.call.Makes D m.before answer moves (m.after D).host) ∨
        (∃ e, m.answer D = .error e) ∧ moves = []) := by
  obtain ⟨s, call⟩ := m
  have start : (Mirror.told σ (.empty none) s.ledger.journal).Alike s.unbounded s :=
    ⟨rfl, ⟨[], rfl, rfl⟩, rfl⟩
  obtain ⟨answers, ledger, ⟨events, told, told'⟩, host⟩ := alike_after start D call
  obtain ⟨moves, chain, step⟩ := (⟨s.unbounded, call⟩ : Step σ).exists_chain D
  -- the unbounded journal shows which events both journals got
  have same : events = moves.flatMap Move.events := by
    have both := told.symm.trans chain.journal
    have lists := congrArg (·.events.toList) both
    rw [Journal.toList_pushAll rfl, Journal.toList_pushAll rfl] at lists
    exact List.append_cancel_left lists
  refine ⟨moves, ?_, ?_, ?_⟩
  · have chain' := chain.withJournal s.ledger.journal
    rw [← same, ← told', ← ledger] at chain'
    exact chain'
  · rw [Step.events, told, Journal.toList_pushAll rfl, same]
    rfl
  · rcases step with ⟨answer, answered, makes⟩ | ⟨⟨e, refused⟩, none⟩
    · refine .inl ⟨answer, answers ▸ answered, ?_⟩
      have host : (after D ⟨s.unbounded, call⟩).host = (after D ⟨s, call⟩).host := host
      rw [← host]
      exact makes.withJournal s.ledger.journal
    · exact .inr ⟨⟨e, answers ▸ refused⟩, none⟩

end Step

end ExitBridge
