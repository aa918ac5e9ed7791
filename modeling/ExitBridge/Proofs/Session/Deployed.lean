/-
  Hosts that deploy no token twice, and what ledgers over them have registered.

  A claim that creates a token has the host deploy it before it is registered. Over a host that
  refuses to deploy a token twice, whatever addresses the derivation gives, a token is therefore
  registered once, and never at the address of wrapped ether, which was deployed when the ledger was
  created.

  * `Call.Makes.deploys`: a call that registers a token has the host deploy it first.
  * `DeploysOnce`: what is asked of the host; `Book.deploysOnce`: a book is one.
  * `BridgeState.Placed`: what is registered is deployed, and is not wrapped ether;
    `Session.placed`: at any time.
-/
import ExitBridge.Proofs.Execution.Book
import ExitBridge.Proofs.Ledger.Session

namespace ExitBridge

open LedgerM

/-! ## What moves register -/

/-- The token that a move registers. -/
def Move.token? : Move → Option Address
  | register e => some e.wrappedTokenAddress
  | _ => none

theorem Ledger.Moves.isRegistered {D : Deployment} {l l' : Ledger} {m : Move} {token : Address}
    (h : l.Moves D m l') : l'.wrapped.byAddress.contains token = true ↔
      l.wrapped.byAddress.contains token = true ∨ m.token? = some token := by
  cases h with
  | register registered =>
    obtain ⟨-, -, hw⟩ := WrappedTokens.register_eq_ok registered
    rw [hw, Std.HashMap.contains_insert, Bool.or_eq_true, beq_iff_eq, Or.comm, Move.token?,
      Option.some.injEq]
  | _ => simp [Move.token?]

variable {σ : Type} [ExecutionHost σ]

section

variable {D : Deployment} {s : BridgeState σ} {host' : σ} {call : Call} {answer : Answer}
  {moves : List Move}

/-- A call leaves the host as it is, or has it carry out effects once. -/
theorem Call.Makes.host_eq_or_applied (h : call.Makes D s answer moves host') :
    host' = s.host ∨
      ∃ effects receipt, ExecutionHost.apply s.host effects = .ok (receipt, host') := by
  have carries {call : Call} {receipt : DepositReceipt} {e : BridgeEvent}
      (deposits : call.Deposits D s receipt e host') : host' = s.host ∨
      ∃ effects receipt, ExecutionHost.apply s.host effects = .ok (receipt, host') := by
    have carried := deposits.carried
    cases heffect : call.effect? D s with
    | none =>
      rw [heffect] at carried
      exact .inl carried
    | some effect =>
      rw [heffect] at carried
      exact .inr ⟨_, carried⟩
  cases h with
  | deposit deposits => exact carries deposits
  | depositPublished deposits => exact carries deposits
  | claim honours => exact .inr ⟨_, honours.carried⟩
  | _ => exact .inl rfl

/-- A call that registers a token has the host deploy it first. -/
theorem Call.Makes.deploys (h : call.Makes D s answer moves host') {m : Move} (hm : m ∈ moves)
    {token : Address} (registers : m.token? = some token) :
    ∃ metadata rest receipt,
      ExecutionHost.apply s.host (.deployWrapped token metadata :: rest) = .ok (receipt, host') := by
  cases h with
  | @claim kind c receipt key host honours =>
    have created : receipt.newWrappedToken = some token := by
      simp only [Claim.moves, List.mem_append, Option.mem_toList, Option.map_eq_some_iff,
        List.mem_singleton] at hm
      obtain ⟨token', htoken, rfl⟩ | rfl := hm
      · obtain rfl : token' = token := Option.some.inj registers
        exact htoken
      · cases registers
    obtain ⟨answer, carried⟩ := honours.carried
    rw [honours.told, Claim.receipt] at created
    cases kind with
    | asset =>
      obtain ⟨-, effects⟩ := selectAsset_of_newWrappedToken created
      rw [Claim.selection, effects] at carried
      exact ⟨c.metadata, _, answer, carried⟩
    | message => cases created
  | ingest =>
    obtain ⟨roots, timestamp, rfl⟩ := Move.exists_of_mem_lessons hm
    cases registers
  | _ =>
    simp only [List.mem_cons, List.not_mem_nil, or_false] at hm
    grind [Move.token?]

end

/-! ## Hosts that deploy once -/

/-- A host tells deployed tokens from others: it deploys a token once, forgets no deployment, and
    says that a token is deployed already only if it is. -/
structure DeploysOnce (handled : σ → σ → Prop) (deployed : σ → Address → Prop) : Prop where
  fresh : ∀ {host token metadata rest receipt host'},
    ExecutionHost.apply host (.deployWrapped token metadata :: rest) = .ok (receipt, host') →
      ¬ deployed host token ∧ deployed host' token
  keeps : ∀ {host effects receipt host' token},
    ExecutionHost.apply host effects = .ok (receipt, host') → deployed host token →
      deployed host' token
  refused : ∀ {host token metadata token'},
    ExecutionHost.apply host [.deployWrapped token metadata] = .error (.alreadyDeployed token') →
      deployed host token
  handled : ∀ {host host' token}, handled host host' → deployed host token → deployed host' token

theorem Book.exists_apply_deployWrapped {b : Book} {token : Address} (metadata : Bytes)
    (free : b.isDeployed token = false) :
    ∃ receipt b', b.apply [.deployWrapped token metadata] = .ok (receipt, b') := by
  rw [Book.apply, List.foldlM_cons, stage, isWrapped_empty, free]
  exact ⟨_, _, rfl⟩

theorem Book.exists_ensureDeployed (b : Book) (token : Address) (metadata : Bytes) :
    ∃ b', Deployment.ensureDeployed b token metadata = .ok b' := by
  cases free : b.isDeployed token with
  | true =>
    have refused : ExecutionHost.apply b [.deployWrapped token metadata] =
        .error (.alreadyDeployed token) := by
      change b.apply _ = _
      rw [Book.apply, List.foldlM_cons, stage, isWrapped_empty, free]
      rfl
    exact ⟨b, by rw [Deployment.ensureDeployed, refused]⟩
  | false =>
    obtain ⟨receipt, b', applied⟩ := exists_apply_deployWrapped metadata free
    have applied : ExecutionHost.apply b [.deployWrapped token metadata] = .ok (receipt, b') :=
      applied
    exact ⟨b', by rw [Deployment.ensureDeployed, applied]⟩

/-- A book deploys a token once, however it is handled between the calls. -/
theorem Book.deploysOnce : DeploysOnce Book.Handled fun b token => b.isDeployed token = true where
  fresh h := by
    obtain ⟨free, deployed⟩ := isDeployed_of_apply_deployWrapped h
    exact ⟨by simp [free], deployed⟩
  keeps := isDeployed_of_apply
  refused {b token metadata token'} h := by
    by_contra free
    obtain ⟨receipt, b', applied⟩ :=
      exists_apply_deployWrapped metadata (Bool.not_eq_true _ ▸ free)
    cases h.symm.trans applied
  handled := Handled.isDeployed

section

variable {handled : σ → σ → Prop} {deployed : σ → Address → Prop}

theorem DeploysOnce.ensureDeployed (once : DeploysOnce handled deployed) {host host' : σ}
    {token : Address} {metadata : Bytes}
    (h : Deployment.ensureDeployed host token metadata = .ok host') : deployed host' token := by
  rw [Deployment.ensureDeployed] at h
  split at h
  · rename_i applied
    cases h
    exact (once.fresh applied).2
  · rename_i taken
    cases h
    exact once.refused taken
  · cases h

/-! ## Registered tokens are deployed -/

/-- Every registered token is deployed and none is wrapped ether, which is deployed too. -/
structure BridgeState.Placed (D : Deployment) (deployed : σ → Address → Prop) (s : BridgeState σ) :
    Prop where
  registered : ∀ token, s.ledger.wrapped.byAddress.contains token = true → deployed s.host token
  weth : ∀ weth, D.weth = some weth → deployed s.host weth
  apart : ∀ weth, D.weth = some weth → s.ledger.wrapped.byAddress.contains weth = false

variable {D : Deployment} {past : List (Step σ)} {now : BridgeState σ}

theorem Step.placed (once : DeploysOnce handled deployed) {m : Step σ}
    (placed : m.before.Placed D deployed) : (m.after D).Placed D deployed := by
  obtain ⟨moves, chain, ⟨answer, -, makes⟩ | ⟨⟨e, refused⟩, -⟩⟩ := m.exists_chain D
  · have keeps : ∀ token, deployed m.before.host token → deployed (m.after D).host token := by
      intro token old
      rcases makes.host_eq_or_applied with same | ⟨effects, receipt, applied⟩
      · rwa [same]
      · exact once.keeps applied old
    have deploys : ∀ token, (m.after D).ledger.wrapped.byAddress.contains token = true →
        m.before.ledger.wrapped.byAddress.contains token = true ∨
          ¬ deployed m.before.host token ∧ deployed (m.after D).host token := by
      intro token registered
      refine ((chain.collects Ledger.Moves.isRegistered).1 registered).imp_right ?_
      rintro ⟨x, hx, new⟩
      obtain ⟨metadata, rest, receipt, applied⟩ := makes.deploys hx new
      exact once.fresh applied
    refine ⟨fun token registered => ?_, fun weth hweth => keeps weth (placed.weth weth hweth),
      fun weth hweth => ?_⟩
    · rcases deploys token registered with old | ⟨-, new⟩
      · exact keeps token (placed.registered token old)
      · exact new
    · -- wrapped ether is deployed already, so it is not deployed again
      by_contra registered
      rcases deploys weth (by simpa using registered) with old | ⟨free, -⟩
      · rw [placed.apart weth hweth] at old
        cases old
      · exact free (placed.weth weth hweth)
  · rcases Call.eq_or_redeploys_of_error (answer_eq_error.1 refused) with same | ⟨redeploys, -⟩
    · rwa [same]
    · obtain ⟨token, metadata, rest, answer, registered, applied⟩ := redeploys
      exact absurd (placed.registered token registered) (once.fresh applied).1

theorem Session.placed (once : DeploysOnce handled deployed) (session : Session D handled past now) :
    now.Placed D deployed := by
  induction session with
  | start created =>
    have empty (token : Address) :
        (Deployment.genesis D.config).wrapped.byAddress.contains token = false := by
      simp [Deployment.genesis, WrappedTokens.empty]
    rw [← genesis_of_create created] at empty
    refine ⟨fun token registered => ?_, fun weth hweth => ?_, fun weth _ => empty weth⟩
    · rw [empty token] at registered
      cases registered
    · rcases Deployment.weth_of_create created with ⟨none, -⟩ | ⟨token, some, -, ensured⟩
      · cases none.symm.trans hweth
      · obtain rfl := Option.some.inj (some.symm.trans hweth)
        exact once.ensureDeployed ensured
  | call _ ih => exact Step.placed once ih
  | host _ change ih =>
    exact ⟨fun token registered => once.handled change (ih.registered token registered),
      fun weth hweth => once.handled change (ih.weth weth hweth), ih.apart⟩

end

end ExitBridge
