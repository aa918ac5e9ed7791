/-
  Claims that a replica honours once it has been told their exit root.

  A path leads from any leaf to some exit root, so what a claim proves is worth no more than the
  exit roots that the ledger knows. A replica knows those that it has been told; told the right
  one, it honours a claim of any leaf, if the host carries out what the claim pays.

  * `Claim.proven`: the claim, against the exit root that its path leads to.
  * `claimAsset_of_finishes`: a claim succeeds if it passes the checks, its effects are carried out,
    and it can be finished.
  * `Session.exists_claim`: the two calls of a replica; `Session.exists_deposit`: a deposit.
-/
import ExitBridge.Proofs.Session.Payment

namespace ExitBridge

open LedgerM

/-! ## Proofs of any leaf -/

/-- The claim of an asset whose proof is yet to be given. -/
def Claim.asking (o : TokenOrigin) (network : UInt32) (receiver : Address) (amount : Amount)
    (metadata : Bytes) : Claim :=
  { (default : Claim) with
    originNetwork := o.network
    originAddress := o.token
    destinationNetwork := network
    destinationAddress := receiver
    amount := amount
    metadata := metadata }

/-- The claim of the same leaf, at an index of the mainnet and against the exit root that its path
    leads to. -/
def Claim.proven (H : NodeHasher) (index : UInt32) (c : Claim) : Claim :=
  { c with
    globalIndex := .mainnet index
    mainnetExitRoot := c.localPath.fold H index ((c.leaf H .asset).hash H) }

theorem Claim.provesLeaf_proven (H : NodeHasher) (index : UInt32) (c : Claim) :
    (c.proven H index).provesLeaf H (((c.proven H index).leaf H .asset).hash H) = true := by
  rw [provesLeaf, if_pos (show (c.proven H index).globalIndex.mainnetFlag = true from rfl),
    InclusionPath.verify, beq_iff_eq]
  rfl

theorem selectAsset_genesis {D : Deployment} {o : TokenOrigin} (foreign : D.IsForeign o)
    (network : UInt32) (receiver : Address) (amount : Amount) (metadata : Bytes) :
    selectAsset D (Deployment.genesis D.config).wrapped
      (.asking o network receiver amount metadata) =
        let token := D.wrapping.address D.hasher o metadata
        ⟨token, [.deployWrapped token metadata, .mintWrapped token receiver amount],
          some token⟩ := by
  have unknown : (Deployment.genesis D.config).wrapped.resolve? D.hasher
      (Claim.asking o network receiver amount metadata).origin = none := by
    simp [Deployment.genesis, WrappedTokens.empty, WrappedTokens.resolve?]
  rw [selectAsset_of_isForeign _ foreign, unknown]
  rfl

/-! ## Calls -/

variable {σ : Type} {D : Deployment} {s : BridgeState σ}

theorem exists_importGlobalExitRoot {r : RootReplica} (replica : s.ledger.roots = .replica r)
    (roots : GlobalExitRoot) (timestamp : UInt64) : ∃ isNew r',
      importGlobalExitRoot D roots timestamp s =
        .ok isNew { s with ledger := { s.ledger with roots := .replica r' } } ∧
      r'.isKnown (roots.hash D.hasher) = true := by
  refine ⟨(r.learn (roots.hash D.hasher) timestamp).1, (r.learn (roots.hash D.hasher) timestamp).2,
    ?_, (r.isKnown_learn _ _ _).2 (.inr rfl)⟩
  simp only [importGlobalExitRoot, bind_eq_ok, ledger_eq_ok]
  refine ⟨_, _, ⟨rfl, rfl⟩, ?_⟩
  simp only [replica, bind_eq_ok, change_eq_ok, pure_eq_ok]
  exact ⟨(), _, rfl, trivial, rfl⟩

variable [ExecutionHost σ]

omit [ExecutionHost σ] in
/-- A claim is finished under a key that is free, if the token that it creates is registered
    nowhere. -/
theorem exists_finishes {c : Claim} (receipt : ClaimReceipt) {key : ScopeKey}
    (unclaimed : s.ledger.claimed.isClaimed key = false)
    (free : ∀ token, receipt.newWrappedToken = some token →
      s.ledger.wrapped.resolve? D.hasher c.origin = none ∧
        s.ledger.wrapped.byAddress.contains token = false) :
    ∃ wrapped claimed journal, s.ledger.claimed.mark key = .ok claimed ∧
      c.Finishes D receipt key s
        { s with ledger := { s.ledger with
            wrapped := wrapped, claimed := claimed, journal := journal } } := by
  obtain ⟨claimed, hmark⟩ := ReplayGuard.exists_mark unclaimed
  have finishes (w : WrappedTokens) (j : Journal) :
      finishClaim key c { s with ledger := { s.ledger with wrapped := w, journal := j } } =
        .ok () { s with ledger := { s.ledger with
          wrapped := w, claimed := claimed, journal := j.push (.claim c.event) } } := by
    simp only [finishClaim, bind_eq_ok, ledger_eq_ok, ofResult_eq_ok, change_eq_ok, emit_eq_ok]
    exact ⟨_, _, ⟨rfl, rfl⟩, claimed, _, ⟨hmark, rfl⟩, (), _, rfl, rfl⟩
  cases created : receipt.newWrappedToken with
  | none =>
    refine ⟨s.ledger.wrapped, claimed, _, hmark, s, ?_, finishes _ _⟩
    rw [created]
  | some token =>
    obtain ⟨unregistered, unknown⟩ := free token created
    obtain ⟨wrapped, hregister⟩ := WrappedTokens.exists_register unregistered unknown
    refine ⟨wrapped, claimed, _, hmark, _, ?_,
      finishes wrapped (s.ledger.journal.push (.newWrappedToken (c.newToken token)))⟩
    simp only [created, registerWrapped, bind_eq_ok, ledger_eq_ok, ofResult_eq_ok, change_eq_ok,
      emit_eq_ok]
    exact ⟨_, _, ⟨rfl, rfl⟩, wrapped, _, ⟨hregister, rfl⟩, (), _, rfl, rfl⟩

theorem claimAsset_of_finishes {c : Claim} {receipt : ClaimReceipt} {key : ScopeKey} {host : σ}
    {s' : BridgeState σ} (honours : c.Honours D s .asset receipt key host)
    (finishes : c.Finishes D receipt key ⟨s.ledger, host⟩ s') :
    claimAsset D c s = .ok receipt s' := by
  obtain ⟨operational, verified, free, told, answer, carried⟩ := honours
  obtain ⟨s₁, registered, finished⟩ := finishes
  have admitted : admitClaim D .asset c s = .ok key s :=
    admitClaim_eq_ok.2 ⟨operational, verified, free, rfl⟩
  simp only [claimAsset, bind_eq_ok, discard_eq_ok, perform_eq_ok, ledger_eq_ok]
  refine ⟨key, s, admitted, _, s, ⟨rfl, rfl⟩, (), _, ⟨answer, host, carried, rfl⟩, ?_⟩
  have created : receipt.newWrappedToken = (selectAsset D s.ledger.wrapped c).newWrappedToken := by
    rw [told]
    rfl
  rw [created] at registered
  cases htoken : (selectAsset D s.ledger.wrapped c).newWrappedToken with
  | none =>
    rw [htoken] at registered
    obtain rfl := registered
    simp only [bind_eq_ok, pure_eq_ok]
    exact ⟨(), s', finished, by rw [told, ← htoken]; rfl, rfl⟩
  | some token =>
    rw [htoken] at registered
    simp only [bind_eq_ok, pure_eq_ok]
    exact ⟨(), _, registered, (), _, finished, by rw [told, ← htoken]; rfl, rfl⟩

/-! ## Sessions -/

variable {handled : σ → σ → Prop} {past : List (Step σ)} {now : BridgeState σ}

theorem Session.call_ok (session : Session D handled past now) {call : Call} {answer : Answer}
    {s' : BridgeState σ} (h : call.run D now = .ok answer s') :
    Session D handled (past ++ [⟨now, call⟩]) s' ∧
      (⟨now, call⟩ : Step σ).answer D = .ok answer := by
  have after : (⟨now, call⟩ : Step σ).after D = s' := by rw [Step.after, h]
  have answered : (⟨now, call⟩ : Step σ).answer D = .ok answer :=
    Step.answer_eq_ok.2 (after.symm ▸ h)
  have next : Session D handled (past ++ [⟨now, call⟩]) ((⟨now, call⟩ : Step σ).after D) :=
    .call session
  exact ⟨after ▸ next, answered⟩

/-- **A deposit of an asset** is taken, if there is room for it and the host carries out its
    effect. -/
theorem Session.exists_deposit {sender : Address} {d : AssetDeposit} {asset : ResolvedAsset}
    {moved : ExecutionReceipt} {host : σ} (session : Session D handled past now)
    (operational : now.ledger.emergency = false) (leaves : d.destinationNetwork ≠ D.config.networkId)
    (room : now.ledger.tree.isFull = false) (quiet : d.forceUpdate = false)
    (resolved : resolveAsset D now.ledger.wrapped (ExecutionHost.tokenMetadata now.host d.token)
      sender d = .ok asset)
    (applied : ExecutionHost.apply now.host [asset.effect] = .ok (moved, host)) :
    ∃ m e tree journal, m.Sends D sender d e ∧ e.origin = asset.origin ∧
      m.effects D = [asset.effect] ∧ m.before = now ∧
      Session D handled (past ++ [m])
        ⟨{ now.ledger with tree := tree, journal := journal }, host⟩ := by
  let block : BlockContext := ⟨0, .zero⟩
  have still : d.forceUpdate = true → now.ledger.roots.canPublish = true := fun loud => by
    cases quiet.symm.trans loud
  obtain ⟨receipt, s', hrun, rfl⟩ :=
    exists_bridgeAsset block operational leaves room still resolved applied
  have ran : (Call.bridgeAsset sender d block).run D now = .ok (.deposit receipt) s' :=
    map_eq_ok.2 ⟨receipt, hrun, rfl⟩
  obtain ⟨next, answered⟩ := session.call_ok ran
  have shape : ∃ tree journal,
      s'.ledger = { now.ledger with tree := tree, journal := journal } := by
    obtain ⟨moves, makes, chain⟩ := Call.makes_of_ok ran
    generalize s'.host = host' at makes
    generalize s'.ledger = ledger' at chain ⊢
    cases makes with
    | deposit =>
      cases chain with
      | cons first rest =>
        cases rest
        cases first
        exact ⟨_, _, rfl⟩
    | depositPublished _ loud => cases quiet.symm.trans loud
  obtain ⟨tree, journal, ledger⟩ := shape
  let e : BridgeEvent := ⟨.asset, asset.originNetwork, asset.originAddress, d.destinationNetwork,
    d.destinationAddress, receipt.amount, asset.metadata, receipt.depositCount⟩
  have made : (Call.bridgeAsset sender d block).deposit? D now receipt = some e := by
    rw [Call.deposit?, resolved]
  refine ⟨⟨now, .bridgeAsset sender d block⟩, e, tree, journal, ⟨⟨_, rfl⟩, ?_⟩, rfl, ?_, rfl,
    ledger ▸ next⟩
  · rw [Step.deposit?, Step.receipt?, answered]
    exact made
  · rw [Step.effects_of_ok answered, Call.orders, Call.effect?, resolved]
    · rfl
    · rintro _ _ ⟨⟩

/-- A replica was told an exit root, and then honoured one claim of an asset: the claim that was asked
    for, with what was selected for it. -/
structure Granted (D : Deployment) (o : TokenOrigin) (receiver : Address) (amount : Amount)
    (metadata : Bytes) (selection : AssetSelection) (i m : Step σ) (c : Claim)
    (receipt : ClaimReceipt) : Prop where
  credits : m.Credits D c receipt
  origin : c.origin = o
  destinationAddress : c.destinationAddress = receiver
  amount : c.amount = amount
  metadata : c.metadata = metadata
  creditedToken : receipt.creditedToken = selection.creditedToken
  newWrappedToken : receipt.newWrappedToken = selection.newWrappedToken
  effects : m.effects D = selection.effects
  only : ∀ x ∈ [i, m], ∀ c' receipt', x.Credits D c' receipt' → c' = c

/-- **A replica in operation honours a claim of any leaf,** once it has been told the exit root that
    the claim is proven against. -/
theorem Session.exists_claim (index : UInt32) {o : TokenOrigin} {receiver : Address}
    {amount : Amount} {metadata : Bytes} {r : RootReplica} {selection : AssetSelection}
    {answer : ExecutionReceipt} {host : σ} (session : Session D handled past now)
    (operational : now.ledger.emergency = false) (replica : now.ledger.roots = .replica r)
    (unclaimed : now.ledger.claimed.isClaimed (.ofParts true D.config.mainnetNetworkId index) = false)
    (selected : selectAsset D now.ledger.wrapped
      (.asking o D.config.networkId receiver amount metadata) = selection)
    (applied : ExecutionHost.apply now.host selection.effects = .ok (answer, host))
    (free : ∀ token, selection.newWrappedToken = some token →
      now.ledger.wrapped.byAddress.contains token = false) :
    ∃ i m c receipt r' wrapped claimed journal,
      Granted D o receiver amount metadata selection i m c receipt ∧
      now.ledger.claimed.mark (.ofParts true D.config.mainnetNetworkId index) = .ok claimed ∧
      Session D handled (past ++ [i, m]) ⟨{ now.ledger with
        roots := .replica r', wrapped := wrapped, claimed := claimed, journal := journal }, host⟩ := by
  subst selected
  let c : Claim := .asking o D.config.networkId receiver amount metadata
  let proven := c.proven D.hasher index
  obtain ⟨isNew, r', imports, known⟩ := exists_importGlobalExitRoot (D := D) replica
    ⟨proven.mainnetExitRoot, proven.rollupExitRoot⟩ 0
  have imported : (Call.importGlobalExitRoot ⟨proven.mainnetExitRoot, proven.rollupExitRoot⟩ 0).run D
      now = .ok _ _ := map_eq_ok.2 ⟨isNew, imports, rfl⟩
  obtain ⟨told, -⟩ := session.call_ok imported
  have verified : verifyClaim D (.replica r') .asset proven =
      .ok (.ofParts true D.config.mainnetNetworkId index) :=
    verifyClaim_eq_ok.2 ⟨rfl, known, c.provesLeaf_proven D.hasher index, rfl⟩
  obtain ⟨wrapped, claimed, journal, hmark, finishes⟩ := exists_finishes (D := D) (c := proven)
    (proven.receipt (selectAsset D now.ledger.wrapped c))
    (s := ⟨{ now.ledger with roots := .replica r' }, host⟩) unclaimed
    fun token created => ⟨(selectAsset_of_newWrappedToken created).1, free token created⟩
  have claims := claimAsset_of_finishes (s := { now with
    ledger := { now.ledger with roots := .replica r' } })
    ⟨operational, verified, unclaimed, rfl, answer, applied⟩ finishes
  have claimed' : (Call.claim .asset proven).run D _ = .ok _ _ := map_eq_ok.2 ⟨_, claims, rfl⟩
  obtain ⟨honoured, answered⟩ := told.call_ok claimed'
  rw [List.append_assoc] at honoured
  refine ⟨_, _, proven, _, r', wrapped, claimed, journal, ⟨⟨rfl, answered⟩, rfl, rfl, rfl, rfl, rfl,
    rfl, Step.effects_of_ok answered, ?_⟩, hmark, honoured⟩
  intro x hx c' receipt' credits
  have called := credits.call
  simp only [List.mem_cons, List.not_mem_nil, or_false] at hx
  rcases hx with rfl | rfl
  · cases called
  · cases called
    rfl

end ExitBridge
