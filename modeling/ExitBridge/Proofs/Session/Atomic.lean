/-
  Calls over a book succeed as a whole or change nothing.

  A call has the host carry out its effects before it appends, publishes, registers or marks. The
  checks made earlier leave one way to fail after that: a claim's new token is registered already.
  The book rules it out, because it deploys no token twice and every registered token is deployed.

  * `BridgeState.Backed`: every registered token is deployed; `Session.backed`: at any time.
  * `failed_calls_change_nothing`: over all sessions and calls.
-/
import ExitBridge.Proofs.Execution.Traced
import ExitBridge.Proofs.Session.Deployed

namespace ExitBridge

open LedgerM

/-! ## Registered tokens are deployed -/

/-- Every registered token is deployed. -/
def BridgeState.Backed (s : BridgeState Book) : Prop :=
  ∀ token, s.ledger.wrapped.byAddress.contains token = true → s.host.isDeployed token = true

theorem BridgeState.Backed.not_redeploys {s : BridgeState Book} (backed : s.Backed) :
    ¬ s.Redeploys := by
  rintro ⟨token, metadata, rest, answer, registered, applied⟩
  have free := (Book.isDeployed_of_apply_deployWrapped applied).1
  rw [backed token registered] at free
  cases free

theorem Session.backed {D : Deployment} {past : List (Step Book)} {now : BridgeState Book}
    (session : Session D Book.Handled past now) : now.Backed :=
  (session.placed Book.deploysOnce).registered

/-! ## All or nothing -/

/-- A call that fails, over a book where every registered token is deployed, changes nothing. -/
theorem BridgeState.Backed.eq_of_error {D : Deployment} {s s' : BridgeState Book} {call : Call}
    {e : LedgerError} (backed : s.Backed) (failed : call.run D s = .error e s') :
    s' = s ∧ call.carried D s = [] := by
  obtain ⟨t, hrun, rfl, carried⟩ := Call.run_traced_of_error failed
  rcases Call.eq_or_redeploys_of_error hrun with rfl | ⟨redeploys, -⟩
  · exact ⟨rfl, carried⟩
  · -- the traced host accepts only what the book accepts
    obtain ⟨token, metadata, rest, answer, registered, applied⟩ := redeploys
    refine absurd ?_ backed.not_redeploys
    exact ⟨token, metadata, rest, _, registered, (Traced.apply_eq_ok applied).1⟩

/-- **A call that fails changes nothing.** However a ledger over a book has come to its state, a call
    that is answered with an error leaves ledger and book as they were; and it fails before the book
    has carried out anything. -/
theorem failed_calls_change_nothing {D : Deployment} {past : List (Step Book)}
    {now : BridgeState Book} (session : Session D Book.Handled past now) {call : Call}
    {e : LedgerError} {s' : BridgeState Book} (failed : call.run D now = .error e s') :
    s' = now ∧ call.carried D now = [] :=
  session.backed.eq_of_error failed

/-- A deposit of nine by an account that holds five. -/
theorem failed_calls_change_nothing_poor :
    ∃ (D : Deployment) (now : BridgeState Book) (call : Call) (e : LedgerError)
      (s' : BridgeState Book), Session D Book.Handled [] now ∧ call.run D now = .error e s' ∧
        s' = now ∧ call.carried D now = [] := by
  let sender : Address := ⟨List.replicate 20 0xa1, rfl⟩
  let config := LedgerConfig.standard
  let D : Deployment :=
    ⟨.keccak, config, ⟨config.bridgeAddress, config.wrappedTokenTemplate, .ofSalt⟩, none⟩
  let book := (Book.empty config.bridgeAddress).mint .zero sender 5
  let now : BridgeState Book := ⟨Deployment.genesis config, book⟩
  have session : Session D Book.Handled [] now :=
    .host (.start (Deployment.create_of_validate
      (LedgerConfig.validate_authority 0 (by decide)) rfl)) (.mint .zero sender 5)
  have refused : ∃ refusal, Book.apply book [.lockNative sender 9] = .error refusal := by
    simp [Book.apply, Book.stage, Book.Overlay.transfer, Book.Overlay.debit, Book.Overlay.balance,
      Book.Overlay.empty, Book.balance, book, Book.mint, Book.empty, Amount.saturatingAdd, bind,
      Except.bind]
  have failed : ∃ e, (Call.bridgeAsset sender
      ⟨1, sender, 9, .zero, 9, false, none⟩ ⟨0, .zero⟩).run D now = .error e now := by
    obtain ⟨refusal, hrefusal⟩ := refused
    refine ⟨.transferFailed refusal.message, map_eq_error.2 ?_⟩
    simp only [bridgeAsset, bind_eq_error, requireOperational_eq_ok, requireOtherNetwork_eq_ok,
      requireCapacity_eq_ok, get_eq_ok, ofResult_eq_ok, perform_eq_error]
    exact .inr ⟨(), now, ⟨rfl, rfl⟩, .inr ⟨(), now, ⟨by decide, rfl⟩,
      .inr ⟨(), now, ⟨by decide, by simp, rfl⟩, .inr ⟨now, now, ⟨rfl, rfl⟩,
      .inr ⟨_, now, ⟨rfl, rfl⟩, .inl ⟨refusal, hrefusal, rfl, rfl⟩⟩⟩⟩⟩⟩
  obtain ⟨e, failed⟩ := failed
  exact ⟨D, now, _, e, now, session, failed, failed_calls_change_nothing session failed⟩

end ExitBridge
