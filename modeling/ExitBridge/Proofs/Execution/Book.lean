/-
  Books over time: what has been deployed stays deployed.

  * `isDeployed_of_apply`: effects undo no deployment.
  * `isDeployed_of_apply_deployWrapped`: effects that begin with a deployment are accepted only where
    nothing is deployed yet.
  * `Book.Handled`: what may happen to a book between the calls of one ledger.
-/
import Mathlib.Tactic.Common
import ExitBridge.Execution.Book
import ExitBridge.Proofs.Result

namespace ExitBridge

namespace Book

variable {b b' : Book} {o o' : Overlay} {effect : Effect} {effects : List Effect}
  {receipt : ExecutionReceipt} {token holder receiver : Address} {amount : Amount}

/-! ## Staging -/

theorem Overlay.deployed_of_debit (h : o.debit b token holder amount = .ok o') :
    o'.deployed = o.deployed := by
  simp only [debit] at h
  split at h
  · cases h
  · cases h
    rfl

theorem Overlay.deployed_of_transfer (h : o.transfer b token holder receiver amount = .ok o') :
    o'.deployed = o.deployed := by
  obtain ⟨o₁, hdebit, hcredit⟩ := except_bind_eq_ok.1 h
  cases hcredit
  have debited := deployed_of_debit hdebit
  exact debited

theorem stage_deployWrapped_eq_ok {metadata : Bytes}
    (h : b.stage o (.deployWrapped token metadata) = .ok o') : o.isWrapped b token = false ∧
      ∃ known, o'.deployed = o.deployed.insert token known := by
  simp only [stage] at h
  split at h
  · cases h
  · rename_i free
    cases h
    exact ⟨by simpa using free, _, rfl⟩

theorem stage_deliverMessage_eq_ok {originAddress : Address} {originNetwork : UInt32}
    {value : Amount} {payload : Bytes}
    (h : b.stage o (.deliverMessage receiver originAddress originNetwork value payload) = .ok o') :
    ∃ o₁, (value = 0 ∧ o₁ = o ∨
        value ≠ 0 ∧ o.transfer b .zero b.escrow receiver value = .ok o₁) ∧
      o' = { o₁ with deliveries :=
        o₁.deliveries ++ [⟨receiver, originAddress, originNetwork, value, payload⟩] } := by
  simp only [stage] at h
  split at h
  · rename_i nothing
    obtain ⟨o₁, hsame, h⟩ := except_bind_eq_ok.1 h
    obtain ⟨_, -, hdelivered⟩ := except_bind_eq_ok.1 h
    cases hsame
    cases hdelivered
    exact ⟨o, .inl ⟨nothing, rfl⟩, rfl⟩
  · rename_i some
    obtain ⟨o₁, htransfer, h⟩ := except_bind_eq_ok.1 h
    obtain ⟨_, -, hdelivered⟩ := except_bind_eq_ok.1 h
    cases hdelivered
    exact ⟨o₁, .inr ⟨some, htransfer⟩, rfl⟩

/-- Only deployments add to what an overlay has deployed. -/
theorem deployed_of_stage (h : b.stage o effect = .ok o')
    (other : ∀ token metadata, effect ≠ .deployWrapped token metadata) :
    o'.deployed = o.deployed := by
  cases effect with
  | lockNative sender amount => exact Overlay.deployed_of_transfer h
  | pullTokens token sender amount permit =>
    obtain ⟨o₁, hdebit, hcredit⟩ := except_bind_eq_ok.1 h
    cases hcredit
    have debited := Overlay.deployed_of_debit hdebit
    exact debited
  | burnWrapped token sender amount =>
    obtain ⟨_, -, hdebit⟩ := except_bind_eq_ok.1 h
    exact Overlay.deployed_of_debit hdebit
  | releaseNative receiver amount => exact Overlay.deployed_of_transfer h
  | releaseTokens token receiver amount => exact Overlay.deployed_of_transfer h
  | deployWrapped token metadata => exact absurd rfl (other token metadata)
  | mintWrapped token receiver amount =>
    obtain ⟨_, -, hcredit⟩ := except_bind_eq_ok.1 h
    cases hcredit
    rfl
  | deliverMessage receiver originAddress originNetwork value payload =>
    obtain ⟨o₁, ⟨-, rfl⟩ | ⟨-, htransfer⟩, rfl⟩ := stage_deliverMessage_eq_ok h
    · rfl
    · have transferred := Overlay.deployed_of_transfer htransfer
      exact transferred

theorem isWrapped_of_stage (h : b.stage o effect = .ok o') (wrapped : o.isWrapped b token = true) :
    o'.isWrapped b token = true := by
  by_cases deploys : ∃ token metadata, effect = .deployWrapped token metadata
  · obtain ⟨_, _, rfl⟩ := deploys
    obtain ⟨-, known, deployed⟩ := stage_deployWrapped_eq_ok h
    simp only [Overlay.isWrapped, deployed, Std.HashMap.contains_insert,
      Bool.or_eq_true] at wrapped ⊢
    exact wrapped.imp_left .inr
  · have deployed := deployed_of_stage h fun token metadata same => deploys ⟨token, metadata, same⟩
    rwa [Overlay.isWrapped, deployed]

theorem isWrapped_of_foldlM (h : effects.foldlM b.stage o = .ok o')
    (wrapped : o.isWrapped b token = true) : o'.isWrapped b token = true := by
  induction effects generalizing o with
  | nil =>
    cases h
    exact wrapped
  | cons effect effects ih =>
    rw [List.foldlM_cons] at h
    obtain ⟨o₁, hstage, hrest⟩ := except_bind_eq_ok.1 h
    exact ih hrest (isWrapped_of_stage hstage wrapped)

/-! ## Applying -/

@[simp] theorem isWrapped_empty (b : Book) (token : Address) :
    Overlay.empty.isWrapped b token = b.isDeployed token := by
  simp [Overlay.empty, Overlay.isWrapped, isDeployed]

@[simp] theorem isDeployed_commit (b : Book) (o : Overlay) (token : Address) :
    (b.commit o).isDeployed token = o.isWrapped b token := by
  rw [isDeployed, commit, Overlay.isWrapped, Std.HashMap.contains_insertMany_list,
    Std.HashMap.map_fst_toList_eq_keys, Std.HashMap.contains_keys, Bool.or_comm]

/-- Effects undo no deployment. -/
theorem isDeployed_of_apply (h : b.apply effects = .ok (receipt, b'))
    (deployed : b.isDeployed token = true) : b'.isDeployed token = true := by
  obtain ⟨o, hstage, hcommit⟩ := except_bind_eq_ok.1 h
  cases hcommit
  rw [isDeployed_commit]
  exact isWrapped_of_foldlM hstage (by rwa [isWrapped_empty])

/-- Effects that begin with a deployment are accepted only where nothing is deployed yet. -/
theorem isDeployed_of_apply_deployWrapped {metadata : Bytes}
    (h : b.apply (.deployWrapped token metadata :: effects) = .ok (receipt, b')) :
    b.isDeployed token = false ∧ b'.isDeployed token = true := by
  obtain ⟨o, hstage, hcommit⟩ := except_bind_eq_ok.1 h
  cases hcommit
  rw [List.foldlM_cons] at hstage
  obtain ⟨o₁, hdeploy, hrest⟩ := except_bind_eq_ok.1 hstage
  obtain ⟨free, known, deployed⟩ := stage_deployWrapped_eq_ok hdeploy
  rw [isDeployed_commit]
  refine ⟨by rwa [isWrapped_empty] at free, isWrapped_of_foldlM hrest ?_⟩
  simp [Overlay.isWrapped, deployed]

/-! ## Between calls -/

/-- What may happen to a book between the calls of one ledger: it is set up, its deliveries are
    taken, or others have it carry out effects. -/
inductive Handled (b : Book) : Book → Prop
  | mint (token holder : Address) (amount : Amount) : Handled b (b.mint token holder amount)
  | registerToken (token : Address) (metadata : TokenMetadata) :
      Handled b (b.registerToken token metadata)
  | setTransferFee (token : Address) (bps : Nat) : Handled b (b.setTransferFee token bps)
  | setHook (receiver : Address) (hook : MessageHook) : Handled b (b.setHook receiver hook)
  | takeDeliveries : Handled b b.takeDeliveries.2
  | apply {effects : List Effect} {receipt : ExecutionReceipt} {b' : Book}
      (applied : b.apply effects = .ok (receipt, b')) : Handled b b'

theorem Handled.isDeployed (h : b.Handled b') (deployed : b.isDeployed token = true) :
    b'.isDeployed token = true := by
  cases h with
  | apply applied => exact isDeployed_of_apply applied deployed
  | _ => exact deployed

end Book

end ExitBridge
