/-
  A host that remembers what it has carried out.

  Operations see of a host only what it answers, so a call goes the same way over a traced host as
  over the host itself. The trace then shows which effects were carried out on the way, also when
  the call failed in the end.

  * `Traced`: a host beside the lists of effects that it has accepted.
  * `Traced.mirror`: the traced host against the host itself; `LedgerM.Erases`: forgetting the
    trace.
  * `Call.run_traced`, `Call.carried`.
-/
import ExitBridge.Proofs.Ledger.Mirror

namespace ExitBridge

variable {σ : Type}

/-- A host, and the lists of effects that it has carried out. -/
structure Traced (σ : Type) where
  host : σ
  carried : List (List Effect)

instance [ExecutionHost σ] : ExecutionHost (Traced σ) where
  apply t effects := (ExecutionHost.apply t.host effects).map fun (receipt, host) =>
    (receipt, ⟨host, t.carried ++ [effects]⟩)
  tokenMetadata t := ExecutionHost.tokenMetadata t.host

theorem Traced.apply_eq_ok [ExecutionHost σ] {t t' : Traced σ} {effects : List Effect}
    {receipt : ExecutionReceipt} (h : ExecutionHost.apply t effects = .ok (receipt, t')) :
    ExecutionHost.apply t.host effects = .ok (receipt, t'.host) ∧
      t'.carried = t.carried ++ [effects] := by
  replace h : (ExecutionHost.apply t.host effects).map (fun (receipt, host) =>
    (receipt, (⟨host, t.carried ++ [effects]⟩ : Traced σ))) = .ok (receipt, t') := h
  cases happly : ExecutionHost.apply t.host effects with
  | ok answer =>
    rw [happly] at h
    cases h
    exact ⟨rfl, rfl⟩
  | error refusal =>
    rw [happly] at h
    cases h

namespace BridgeState

/-- The state over a traced host that has carried out nothing yet. -/
def traced (s : BridgeState σ) : BridgeState (Traced σ) := ⟨s.ledger, ⟨s.host, []⟩⟩

/-- The state over the host itself. -/
def forget (t : BridgeState (Traced σ)) : BridgeState σ := ⟨t.ledger, t.host.host⟩

@[simp] theorem forget_traced (s : BridgeState σ) : s.traced.forget = s := rfl

end BridgeState

/-! ## Forgetting the trace -/

namespace LedgerM

/-- An operation over the host ends as one over the traced host does, but for the trace. -/
def Erases {α : Type} (x : LedgerM (Traced σ) α) (y : LedgerM σ α) : Prop :=
  ∀ t, y t.forget = match x t with
    | .ok a t' => .ok a t'.forget
    | .error e t' => .error e t'.forget

end LedgerM

open LedgerM

/-- A traced host against the host itself, over one journal. -/
def Traced.mirror [ExecutionHost σ] : Mirror (Traced σ) σ where
  hosts t h := t.host = h
  journals j j' := j = j'
  push e same := congrArg (Journal.push · e) same
  tokenMetadata token same := congrArg (ExecutionHost.tokenMetadata · token) same
  apply := by
    rintro t _ effects rfl
    have traced : ExecutionHost.apply t effects = (ExecutionHost.apply t.host effects).map
        fun (receipt, host) => (receipt, (⟨host, t.carried ++ [effects]⟩ : Traced σ)) := rfl
    rw [traced]
    cases ExecutionHost.apply t.host effects with
    | ok answer => exact .ok rfl
    | error refusal => exact .error

/-- States over a traced host and over the host itself that are alike differ in the trace alone. -/
theorem Traced.eq_forget_of_alike [ExecutionHost σ] {t : BridgeState (Traced σ)}
    {s : BridgeState σ} (alike : mirror.Alike t s) : s = t.forget := by
  obtain ⟨ledger, journal, host⟩ := alike
  obtain ⟨l, h⟩ := s
  have sameJournal : t.ledger.journal = l.journal := journal
  have sameHost : t.host.host = h := host
  simp only at ledger
  rw [BridgeState.forget, ledger, ← sameJournal, ← sameHost]

variable [ExecutionHost σ]

namespace Call

/-- **A call goes the same way** over a traced host as over the host itself. -/
theorem run_traced (D : Deployment) (call : Call) :
    Erases (σ := σ) (call.run D) (call.run D) := by
  intro t
  have ends := Traced.mirror.reflects_run D call t t.forget ⟨rfl, rfl, rfl⟩
  generalize call.run D t = r at ends ⊢
  generalize call.run D t.forget = r' at ends ⊢
  cases ends with
  | ok alike => rw [Traced.eq_forget_of_alike alike]
  | error alike => rw [Traced.eq_forget_of_alike alike]

/-- The lists of effects that the host carries out during a call, whether the call succeeds or
    not. -/
def carried (D : Deployment) (s : BridgeState σ) (call : Call) : List (List Effect) :=
  match call.run D s.traced with
  | .ok _ t => t.host.carried
  | .error _ t => t.host.carried

variable {D : Deployment} {s s' : BridgeState σ} {call : Call} {answer : Answer} {e : LedgerError}

theorem run_traced_of_ok (h : call.run D s = .ok answer s') :
    ∃ t, call.run D s.traced = .ok answer t ∧ t.forget = s' ∧
      call.carried D s = t.host.carried := by
  have same := run_traced D call s.traced
  rw [BridgeState.forget_traced, h] at same
  rw [carried]
  cases traced : call.run D s.traced with
  | ok answer' t =>
    rw [traced] at same
    cases same
    exact ⟨t, rfl, rfl, rfl⟩
  | error e t =>
    rw [traced] at same
    cases same

theorem run_traced_of_error (h : call.run D s = .error e s') :
    ∃ t, call.run D s.traced = .error e t ∧ t.forget = s' ∧ call.carried D s = t.host.carried := by
  have same := run_traced D call s.traced
  rw [BridgeState.forget_traced, h] at same
  rw [carried]
  cases traced : call.run D s.traced with
  | ok answer t =>
    rw [traced] at same
    cases same
  | error e' t =>
    rw [traced] at same
    cases same
    exact ⟨t, rfl, rfl, rfl⟩

end Call

end ExitBridge
