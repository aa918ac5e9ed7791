/-
  How sequences of results end.

  * `except_bind_eq_ok`: one result after another.
  * `except_mapM_eq_ok`: a result for each member of a list.
-/
import Mathlib.Data.List.Forall2
import ExitBridge.Error

namespace ExitBridge

theorem except_bind_eq_ok {ε α β : Type} {x : Except ε α} {f : α → Except ε β} {b : β} :
    (x >>= f) = .ok b ↔ ∃ a, x = .ok a ∧ f a = .ok b := by
  cases x with
  | ok a => simp [bind, Except.bind]
  | error e => simp [bind, Except.bind]

theorem except_mapM_eq_ok {ε α β : Type} {f : α → Except ε β} {as : List α} {bs : List β} :
    as.mapM f = .ok bs ↔ List.Forall₂ (fun a b => f a = .ok b) as bs := by
  induction as generalizing bs with
  | nil =>
    rw [List.mapM_nil, List.forall₂_nil_left_iff]
    exact ⟨fun h => (Except.ok.inj h).symm, fun h => h ▸ rfl⟩
  | cons a as ih =>
    rw [List.mapM_cons, except_bind_eq_ok, List.forall₂_cons_left_iff]
    refine exists_congr fun b => ?_
    rw [except_bind_eq_ok]
    constructor
    · rintro ⟨first, rest, others, same⟩
      exact ⟨rest, first, ih.1 others, (Except.ok.inj same).symm⟩
    · rintro ⟨rest, first, others, rfl⟩
      exact ⟨first, rest, ih.2 others, rfl⟩

end ExitBridge
