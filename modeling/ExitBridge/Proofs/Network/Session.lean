/-
  Each ledger of a run goes through a session of its own.

  * `stepsOf`: the calls of a run to one network's ledger.
  * `Run.session`: they are a session, in which the host may become any other between calls.
-/
import ExitBridge.Proofs.Ledger.Session
import ExitBridge.Proofs.Network.Run

namespace ExitBridge

variable {σ : Type}

/-- A call of a run, seen by the ledger that is called. -/
def Moment.step (m : Moment σ) : Step σ := ⟨⟨m.member.ledger, m.host⟩, m.call⟩

/-- The calls of a run to one network's ledger. -/
def stepsOf (past : List (Moment σ)) (n : UInt32) : List (Step σ) :=
  past.filterMap fun m => if m.network = n then some m.step else none

theorem stepsOf_snoc (past : List (Moment σ)) (m : Moment σ) (n : UInt32) :
    stepsOf (past ++ [m]) n =
      stepsOf past n ++ (if m.network = n then some m.step else none).toList := by
  rw [stepsOf, List.filterMap_append]
  rfl

variable [ExecutionHost σ] {H : NodeHasher} {mainnet : UInt32}
  {rule : List Federation → UInt32 → Call → Prop} {past : List (Moment σ)} {f : Federation}

theorem Moment.ledger_after_step (m : Moment σ) :
    (m.step.after m.member.deployment).ledger = m.after := by
  rw [Step.after, Moment.after, Moment.step]
  split <;> simp_all

/-- **Every ledger of a run** goes through a session. -/
theorem Run.session (run : Run H mainnet rule past f) {n : UInt32} {M : Member}
    (hM : f n = some M) :
    ∃ host, Session M.deployment (fun _ _ => True) (stepsOf past n) ⟨M.ledger, host⟩ := by
  induction run generalizing M with
  | start genesis =>
    obtain ⟨config, derivation, before, after, -, -, created⟩ := genesis n M hM
    exact ⟨after, .start created⟩
  | step m run called allowed ih =>
    rw [Moment.result] at hM
    by_cases hn : n = m.network
    · subst hn
      rw [if_pos rfl] at hM
      cases hM
      obtain ⟨host, session⟩ := ih called
      have met : Session m.member.deployment (fun _ _ => True) (stepsOf _ m.network)
          m.step.before := session.host trivial
      refine ⟨(m.step.after m.member.deployment).host, ?_⟩
      rw [stepsOf_snoc, if_pos rfl, ← m.ledger_after_step]
      exact met.call
    · rw [if_neg hn] at hM
      obtain ⟨host, session⟩ := ih hM
      refine ⟨host, ?_⟩
      rw [stepsOf_snoc, if_neg (Ne.symm hn), Option.toList_none, List.append_nil]
      exact session

end ExitBridge
