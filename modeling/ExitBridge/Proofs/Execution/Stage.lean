/-
  One effect on an overlay, in general.

  Whatever an effect is, it takes what it says, then gives what it says, and then adds the message
  that it delivers, if there is one.

  * `Overlay.take`, `Overlay.give`: an entry taken from the balances of an overlay, or given to
    them.
  * `Effect.delivery?`: the message that an effect delivers.
  * `Book.stage_eq_ok`: what staging an effect comes to.
-/
import ExitBridge.Proofs.Execution.Balance

namespace ExitBridge

/-- The message that an effect delivers. -/
def Effect.delivery? : Effect → Option MessageDelivery
  | deliverMessage receiver originAddress originNetwork value payload =>
    some ⟨receiver, originAddress, originNetwork, value, payload⟩
  | _ => none

namespace Book

namespace Overlay

/-- Takes an entry from the balances, if there is one. -/
def take (o : Overlay) (b : Book) : Option Entry → Except ExecutionError Overlay
  | some e => o.debit b e.token e.holder e.amount
  | none => .ok o

/-- Gives an entry to the balances, if there is one. -/
def give (o : Overlay) (b : Book) : Option Entry → Overlay
  | some e => o.credit b e.token e.holder e.amount
  | none => o

end Overlay

variable {b b' : Book} {o o' : Overlay} {effect : Effect} {effects : List Effect}
  {receipt : ExecutionReceipt} {token holder receiver : Address} {amount : Amount}

theorem Overlay.deliveries_of_debit (h : o.debit b token holder amount = .ok o') :
    o'.deliveries = o.deliveries ++ [] := by
  simp only [debit] at h
  split at h
  · cases h
  · cases h
    exact (List.append_nil _).symm

theorem Overlay.transfer_eq_ok (h : o.transfer b token holder receiver amount = .ok o') :
    ∃ o₁, o.debit b token holder amount = .ok o₁ ∧ o' = o₁.credit b token receiver amount := by
  obtain ⟨o₁, debited, credited⟩ := except_bind_eq_ok.1 h
  cases credited
  exact ⟨o₁, debited, rfl⟩

/-- **Staging an effect** takes what it says, gives what it says, and adds what it delivers. -/
theorem stage_eq_ok (h : b.stage o effect = .ok o') :
    ∃ o₁, o.take b (effect.taken? b.escrow) = .ok o₁ ∧
      o'.balances = (o₁.give b (b.given? effect)).balances ∧
      o'.deliveries = o.deliveries ++ effect.delivery?.toList := by
  have transferred {token sender receiver amount}
      (h : o.transfer b token sender receiver amount = .ok o') :
      ∃ o₁, o.debit b token sender amount = .ok o₁ ∧
        o'.balances = (o₁.credit b token receiver amount).balances ∧
        o'.deliveries = o.deliveries ++ [] := by
    obtain ⟨o₁, debited, rfl⟩ := Overlay.transfer_eq_ok h
    have kept := Overlay.deliveries_of_debit debited
    exact ⟨o₁, debited, rfl, kept⟩
  cases effect with
  | lockNative sender amount => exact transferred h
  | pullTokens token sender amount permit =>
    obtain ⟨o₁, debited, credited⟩ := except_bind_eq_ok.1 h
    cases credited
    have kept := Overlay.deliveries_of_debit debited
    exact ⟨o₁, debited, rfl, kept⟩
  | burnWrapped token sender amount =>
    obtain ⟨_, -, debited⟩ := except_bind_eq_ok.1 h
    exact ⟨o', debited, rfl, Overlay.deliveries_of_debit debited⟩
  | releaseNative receiver amount => exact transferred h
  | releaseTokens token receiver amount => exact transferred h
  | deployWrapped token metadata =>
    simp only [stage] at h
    split at h
    · cases h
    · cases h
      exact ⟨o, rfl, rfl, (List.append_nil _).symm⟩
  | mintWrapped token receiver amount =>
    obtain ⟨_, -, credited⟩ := except_bind_eq_ok.1 h
    cases credited
    exact ⟨o, rfl, rfl, (List.append_nil _).symm⟩
  | deliverMessage receiver originAddress originNetwork value payload =>
    obtain ⟨o₁, moved, rfl⟩ := stage_deliverMessage_eq_ok h
    rw [Effect.taken?, given?]
    obtain ⟨nothing, rfl⟩ | ⟨some, transferred⟩ := moved
    · rw [if_pos nothing, if_pos nothing]
      exact ⟨o₁, rfl, rfl, rfl⟩
    · rw [if_neg some, if_neg some]
      obtain ⟨o₂, debited, rfl⟩ := Overlay.transfer_eq_ok transferred
      have kept := Overlay.deliveries_of_debit debited
      rw [List.append_nil] at kept
      exact ⟨o₂, debited, rfl, congrArg (· ++ _) kept⟩

end Book

end ExitBridge
