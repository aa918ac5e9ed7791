/-
  When a claim is honoured, and what that changes.

  A claim has to meet seven requirements, and the first one that it does not meet decides its error.
  The last one is the host's, which has to accept the effects. Nothing fails behind it over a book:
  a token that the book deploys is not registered yet, and the key was free.

  * `Requirement`, `FirstFails`: requirements in order, and the error of the first that is not met.
  * `Claim.requirements`: those of a claim of an asset or of a message.
  * `Claim.run_of_firstFails`, `BridgeState.Backed.exists_run_claim`: a claim fails with that error,
    or succeeds.
  * `Claim.Settles`: all that a claim changes when it succeeds.
  * `claims_decided`: over all sessions and claims.
-/
import ExitBridge.Proofs.Session.Atomic
import ExitBridge.Proofs.Session.Proven

namespace ExitBridge

open LedgerM

/-! ## Requirements in order -/

/-- A condition, and the error that tells that it is not met. -/
structure Requirement where
  met : Prop
  error : LedgerError

/-- The first requirement that is not met has this error. -/
def FirstFails (rs : List Requirement) (e : LedgerError) : Prop :=
  ∃ before r after, rs = before ++ r :: after ∧ (∀ q ∈ before, q.met) ∧ ¬r.met ∧ r.error = e

section

variable {r : Requirement} {rs : List Requirement} {e : LedgerError}

@[simp] theorem not_firstFails_nil : ¬FirstFails [] e := by
  rintro ⟨before, r, after, split, -⟩
  simp at split

@[simp] theorem firstFails_cons :
    FirstFails (r :: rs) e ↔ ¬r.met ∧ r.error = e ∨ r.met ∧ FirstFails rs e := by
  constructor
  · rintro ⟨before, q, after, split, met, unmet, error⟩
    cases before with
    | nil =>
      obtain ⟨rfl, rfl⟩ := List.cons.inj split
      exact .inl ⟨unmet, error⟩
    | cons p before =>
      obtain ⟨rfl, rfl⟩ := List.cons.inj split
      refine .inr ⟨met _ List.mem_cons_self, before, q, after, rfl, ?_, unmet, error⟩
      intro q hq
      exact met q (List.mem_cons_of_mem _ hq)
  · rintro (⟨unmet, error⟩ | ⟨first, before, q, after, rfl, met, unmet, error⟩)
    · exact ⟨[], r, rs, rfl, by simp, unmet, error⟩
    · refine ⟨r :: before, q, after, rfl, ?_, unmet, error⟩
      intro p hp
      rcases List.mem_cons.1 hp with rfl | hp
      · exact first
      · exact met p hp

theorem firstFails_append {qs : List Requirement} :
    FirstFails (rs ++ qs) e ↔ FirstFails rs e ∨ (∀ r ∈ rs, r.met) ∧ FirstFails qs e := by
  induction rs with
  | nil => simp
  | cons r rs ih =>
    simp only [List.cons_append, firstFails_cons, ih, List.forall_mem_cons]
    tauto

/-- All requirements are met, or one is the first that is not. -/
theorem met_or_firstFails (rs : List Requirement) :
    (∀ r ∈ rs, r.met) ∨ ∃ e, FirstFails rs e := by
  induction rs with
  | nil => exact .inl (by simp)
  | cons r rs ih =>
    by_cases first : r.met
    · rcases ih with all | ⟨e, fails⟩
      · exact .inl (by simpa [first] using all)
      · exact .inr ⟨e, firstFails_cons.2 (.inr ⟨first, fails⟩)⟩
    · exact .inr ⟨r.error, firstFails_cons.2 (.inl ⟨first, rfl⟩)⟩

end

/-! ## What is required of a claim -/

/-- The key of an index: under the mainnet flag the network is the mainnet, else that of the
    rollup. -/
def GlobalIndex.replayKey (mainnetNetworkId : UInt32) (g : GlobalIndex) : ScopeKey :=
  .ofParts g.mainnetFlag (if g.mainnetFlag then mainnetNetworkId else g.rollupIndex + 1) g.leafIndex

/-- The last rollup index belongs to no network. -/
def GlobalIndex.HasNetwork (g : GlobalIndex) : Prop :=
  g.mainnetFlag = true ∨ g.rollupIndex.toNat ≠ 2 ^ 32 - 1

theorem GlobalIndex.scopeKey_of_hasNetwork {g : GlobalIndex} (network : g.HasNetwork)
    (mainnetNetworkId : UInt32) :
    g.scopeKey mainnetNetworkId = .ok (g.replayKey mainnetNetworkId) := by
  have bound := g.rollupIndex.toNat_lt
  cases flag : g.mainnetFlag with
  | true => simp [scopeKey, replayKey, flag]
  | false =>
    have inside : g.rollupIndex.toNat + 1 < 2 ^ 32 := by
      rcases network with mainnet | other
      · cases flag.symm.trans mainnet
      · omega
    simp only [scopeKey, flag, rollupNetworkId, if_pos inside]
    simp [replayKey, flag, bind, Except.bind, pure, Except.pure]

theorem GlobalIndex.scopeKey_of_not_hasNetwork {g : GlobalIndex} (none : ¬g.HasNetwork)
    (mainnetNetworkId : UInt32) : g.scopeKey mainnetNetworkId = .error .globalIndexInvalid := by
  obtain ⟨flag, last⟩ := not_or.1 none
  have outside : ¬g.rollupIndex.toNat + 1 < 2 ^ 32 := by omega
  simp only [scopeKey, rollupNetworkId, if_neg flag, if_neg outside]
  rfl

/-- Folded along its paths, a leaf leads to the exit root of its network: on the mainnet to the
    mainnet's, else to the rollups', by way of its rollup's. -/
def Claim.LeadsToRoot (H : NodeHasher) (c : Claim) (leafHash : Digest) : Prop :=
  let localRoot := c.localPath.rootFrom H c.globalIndex.leafIndex leafHash
  if c.globalIndex.mainnetFlag then localRoot = c.mainnetExitRoot
  else c.rollupPath.rootFrom H c.globalIndex.rollupIndex localRoot = c.rollupExitRoot

theorem Claim.provesLeaf_iff {H : NodeHasher} {c : Claim} {leafHash : Digest} :
    c.provesLeaf H leafHash = true ↔ c.LeadsToRoot H leafHash := by
  simp only [provesLeaf, LeadsToRoot, InclusionPath.verify, InclusionPath.fold_eq_rootFrom]
  cases flag : c.globalIndex.mainnetFlag with
  | true => simp
  | false => simp

/-- What is required of a claim before its effects, in the order in which it is checked. -/
def Claim.checks (D : Deployment) (l : Ledger) (kind : LeafKind) (c : Claim) : List Requirement :=
  let globalExitRoot := D.hasher.hash (c.mainnetExitRoot.toList ++ c.rollupExitRoot.toList)
  let leafHash := D.hasher.hash (kind.toByte :: (bigEndian 4 c.originNetwork.toNat ++
    c.originAddress.toList ++ bigEndian 4 c.destinationNetwork.toNat ++
    c.destinationAddress.toList ++ c.amount.toBytes ++ (D.hasher.hash c.metadata).toList))
  [⟨l.emergency = false, .onlyNotEmergencyState⟩,
    ⟨c.destinationNetwork = D.config.networkId,
      .destinationNetworkInvalid c.destinationNetwork D.config.networkId⟩,
    ⟨l.roots.isKnown globalExitRoot = true, .globalExitRootInvalid⟩,
    ⟨c.LeadsToRoot D.hasher leafHash, .invalidSmtProof⟩,
    ⟨c.globalIndex.HasNetwork, .globalIndexInvalid⟩,
    ⟨l.claimed.isClaimed (c.globalIndex.replayKey D.config.mainnetNetworkId) = false,
      .alreadyClaimed⟩]

/-- The error of a claim whose effects are refused. -/
def LeafKind.blame : LeafKind → String → LedgerError
  | asset => .transferFailed
  | message => .messageFailed

/-- Why a host refuses effects, if it does. -/
def refusalOf {σ : Type} [ExecutionHost σ] (host : σ) (effects : List Effect) : String :=
  match ExecutionHost.apply host effects with
  | .ok _ => ""
  | .error refusal => refusal.message

/-- **What is required of a claim,** in order: the checks, and that the host accepts the effects. -/
def Claim.requirements {σ : Type} [ExecutionHost σ] (D : Deployment) (s : BridgeState σ)
    (kind : LeafKind) (c : Claim) : List Requirement :=
  let effects := (c.selection D s.ledger.wrapped kind).effects
  c.checks D s.ledger kind ++
    [⟨∃ answer, ExecutionHost.apply s.host effects = .ok answer,
      kind.blame (refusalOf s.host effects)⟩]

/-! ## The checks -/

section

variable {σ : Type} {D : Deployment} {s s' : BridgeState σ} {kind : LeafKind} {c : Claim}
  {e : LedgerError}

theorem Claim.admitClaim_of_met (met : ∀ r ∈ c.checks D s.ledger kind, r.met) :
    admitClaim D kind c s = .ok (c.globalIndex.replayKey D.config.mainnetNetworkId) s := by
  simp only [checks, List.mem_cons, List.not_mem_nil, or_false, forall_eq_or_imp, forall_eq] at met
  obtain ⟨operational, destination, known, leads, network, free⟩ := met
  have verified : verifyClaim D s.ledger.roots kind c =
      .ok (c.globalIndex.replayKey D.config.mainnetNetworkId) :=
    verifyClaim_eq_ok.2 ⟨destination, known, provesLeaf_iff.2 leads,
      GlobalIndex.scopeKey_of_hasNetwork network _⟩
  exact admitClaim_eq_ok.2 ⟨operational, verified, free, rfl⟩

theorem Claim.admitClaim_of_firstFails (fails : FirstFails (c.checks D s.ledger kind) e) :
    admitClaim D kind c s = .error e s := by
  simp only [checks, firstFails_cons, not_firstFails_nil, and_false, or_false] at fails
  simp only [admitClaim, bind_eq_error, requireOperational_eq_error, requireOperational_eq_ok,
    ledger_eq_error, ledger_eq_ok, ofResult_eq_error, ofResult_eq_ok, require_eq_error]
  rcases fails with ⟨emergency, rfl⟩ | ⟨operational, fails⟩
  · exact .inl ⟨by simpa using emergency, rfl, trivial⟩
  refine .inr ⟨(), s, ⟨operational, rfl⟩, .inr ⟨s.ledger, s, ⟨rfl, rfl⟩, ?_⟩⟩
  rcases fails with ⟨elsewhere, rfl⟩ | ⟨destination, fails⟩
  · exact .inl ⟨by rw [verifyClaim, if_pos elsewhere], rfl⟩
  rcases fails with ⟨unknown, rfl⟩ | ⟨known, fails⟩
  · exact .inl ⟨by simp [verifyClaim, destination, c.globalExitRoot_eq, unknown], rfl⟩
  rw [← c.hash_leaf] at fails
  rcases fails with ⟨astray, rfl⟩ | ⟨leads, fails⟩
  · exact .inl ⟨by simp [verifyClaim, destination, c.globalExitRoot_eq, known,
      mt provesLeaf_iff.1 astray], rfl⟩
  have verified : verifyClaim D s.ledger.roots kind c =
      c.globalIndex.scopeKey D.config.mainnetNetworkId := by
    simp [verifyClaim, destination, c.globalExitRoot_eq, known, provesLeaf_iff.2 leads]
  rw [verified]
  rcases fails with ⟨none, rfl⟩ | ⟨network, taken, rfl⟩
  · exact .inl ⟨GlobalIndex.scopeKey_of_not_hasNetwork none _, rfl⟩
  · exact .inr ⟨_, s, ⟨GlobalIndex.scopeKey_of_hasNetwork network _, rfl⟩,
      .inl ⟨by simpa using taken, rfl, rfl⟩⟩

end

/-! ## Failure and success -/

section

variable {σ : Type} [ExecutionHost σ] {D : Deployment} {s s' : BridgeState σ} {kind : LeafKind}
  {c : Claim} {e : LedgerError}

/-- What is not met first is one of the checks, or the host refuses the effects. -/
theorem Claim.firstFails_requirements : FirstFails (c.requirements D s kind) e ↔
    FirstFails (c.checks D s.ledger kind) e ∨ (∀ r ∈ c.checks D s.ledger kind, r.met) ∧
      ∃ refusal, ExecutionHost.apply s.host (c.selection D s.ledger.wrapped kind).effects =
        .error refusal ∧ kind.blame refusal.message = e := by
  simp only [requirements, firstFails_append, firstFails_cons, not_firstFails_nil, and_false,
    or_false]
  refine or_congr_right (and_congr_right fun _ => ?_)
  rw [refusalOf]
  cases ExecutionHost.apply s.host (c.selection D s.ledger.wrapped kind).effects with
  | ok answer => simp
  | error refusal => simp

/-- A claim that is not admitted, or whose effects are refused, fails with that error. -/
theorem Claim.run_of_firstFails (fails : FirstFails (c.requirements D s kind) e) :
    (Call.claim kind c).run D s = .error e s := by
  rcases firstFails_requirements.1 fails with unchecked | ⟨met, refusal, refused, rfl⟩
  · have refused := admitClaim_of_firstFails unchecked
    cases kind with
    | asset =>
      refine map_eq_error.2 ?_
      rw [claimAsset, bind_eq_error]
      exact .inl refused
    | message =>
      refine map_eq_error.2 ?_
      rw [claimMessage, bind_eq_error]
      exact .inl refused
  · have admitted := admitClaim_of_met met
    cases kind with
    | asset =>
      refine map_eq_error.2 ?_
      simp only [claimAsset, bind_eq_error, ledger_eq_ok, discard_eq_error, perform_eq_error]
      exact .inr ⟨_, s, admitted, .inr ⟨_, s, ⟨rfl, rfl⟩, .inl ⟨refusal, refused, rfl, rfl⟩⟩⟩
    | message =>
      refine map_eq_error.2 ?_
      simp only [claimMessage, bind_eq_error, discard_eq_error, perform_eq_error]
      exact .inr ⟨_, s, admitted, .inl ⟨refusal, refused, rfl, rfl⟩⟩

end

section

variable {D : Deployment} {s s' : BridgeState Book} {kind : LeafKind} {c : Claim} {answer : Answer}

/-- A claim that meets all that is required of it succeeds over a book: the token that it creates is
    not registered yet, for the book would not have deployed it. -/
theorem BridgeState.Backed.exists_run_claim (backed : s.Backed)
    (met : ∀ r ∈ c.requirements D s kind, r.met) :
    ∃ answer s', (Call.claim kind c).run D s = .ok answer s' := by
  simp only [Claim.requirements, List.forall_mem_append, List.forall_mem_singleton] at met
  obtain ⟨checked, ⟨carried, host⟩, applied⟩ := met
  have admitted := Claim.admitClaim_of_met checked
  obtain ⟨operational, verified, free, -⟩ := admitClaim_eq_ok.1 admitted
  cases kind with
  | asset =>
    obtain ⟨wrapped, claimed, journal, -, finishes⟩ := exists_finishes (D := D) (c := c)
      (c.receipt (selectAsset D s.ledger.wrapped c)) (s := ⟨s.ledger, host⟩) free
      fun token created => by
        obtain ⟨unresolved, effects⟩ := selectAsset_of_newWrappedToken created
        rw [Claim.selection, effects] at applied
        refine ⟨unresolved, Bool.eq_false_iff.2 fun registered => ?_⟩
        have undeployed := (Book.isDeployed_of_apply_deployWrapped applied).1
        rw [backed token registered] at undeployed
        cases undeployed
    have honours : c.Honours D s .asset _ _ host :=
      ⟨operational, verified, free, rfl, carried, applied⟩
    have claims := claimAsset_of_finishes honours finishes
    exact ⟨_, _, map_eq_ok.2 ⟨_, claims, rfl⟩⟩
  | message =>
    obtain ⟨receipt, s', claims⟩ := exists_claimMessage admitted applied
    exact ⟨_, s', map_eq_ok.2 ⟨receipt, claims, rfl⟩⟩

/-- What the journal tells of a claim that is honoured. -/
def Claim.events (c : Claim) (newWrappedToken : Option Address) : List Event :=
  (newWrappedToken.map fun token => .newWrappedToken (c.newToken token)).toList ++ [.claim c.event]

/-- **All that a claim changes** when it succeeds: the book by its effects, the key's bit, the
    registry by the token that it creates, and the journal, which tells of that token and then of
    the claim. -/
structure Claim.Settles (D : Deployment) (kind : LeafKind) (c : Claim) (s : BridgeState Book)
    (answer : Answer) (s' : BridgeState Book) : Prop where
  answer : answer = .claim (c.receipt (c.selection D s.ledger.wrapped kind))
  book : ∃ receipt,
    s.host.apply (c.selection D s.ledger.wrapped kind).effects = .ok (receipt, s'.host)
  claimed : s.ledger.claimed.mark (c.globalIndex.replayKey D.config.mainnetNetworkId) =
    .ok s'.ledger.claimed
  bit : ∀ key, s'.ledger.claimed.isClaimed key = true ↔ s.ledger.claimed.isClaimed key = true ∨
    key = c.globalIndex.replayKey D.config.mainnetNetworkId
  wrapped : match (c.selection D s.ledger.wrapped kind).newWrappedToken with
    | none => s'.ledger.wrapped = s.ledger.wrapped
    | some token => s.ledger.wrapped.register D.hasher c.origin token = .ok s'.ledger.wrapped
  rest : s'.ledger =
    { s.ledger with
      claimed := s'.ledger.claimed
      wrapped := s'.ledger.wrapped
      journal := s.ledger.journal.pushAll
        (c.events (c.selection D s.ledger.wrapped kind).newWrappedToken) }

omit s s' kind answer in
theorem Ledger.Chain.claim {l l' : Ledger} {receipt : ClaimReceipt} {key : ScopeKey}
    (chain : l.Chain D (c.moves receipt key) l') : l.claimed.mark key = .ok l'.claimed ∧
      (match receipt.newWrappedToken with
        | none => l'.wrapped = l.wrapped
        | some token => l.wrapped.register D.hasher c.origin token = .ok l'.wrapped) ∧
      l' = { l with
        claimed := l'.claimed
        wrapped := l'.wrapped
        journal := l.journal.pushAll (c.events receipt.newWrappedToken) } := by
  rw [Claim.moves] at chain
  cases created : receipt.newWrappedToken with
  | none =>
    rw [created] at chain
    cases chain with
    | cons first rest =>
      cases rest
      cases first with
      | mark marked => exact ⟨marked, rfl, rfl⟩
  | some token =>
    rw [created] at chain
    cases chain with
    | cons first rest =>
      cases first with
      | register registered =>
        cases rest with
        | cons second rest =>
          cases rest
          cases second with
          | mark marked => exact ⟨marked, registered, rfl⟩

theorem Claim.replayKey_of_verifyClaim {roots : RootStore} {key : ScopeKey}
    (verified : verifyClaim D roots kind c = .ok key) :
    key = c.globalIndex.replayKey D.config.mainnetNetworkId := by
  obtain ⟨-, -, -, scope⟩ := verifyClaim_eq_ok.1 verified
  exact GlobalIndex.key_of_scopeKey scope

theorem Claim.exists_honours (h : (Call.claim kind c).run D s = .ok answer s') :
    ∃ receipt key host, answer = .claim receipt ∧ c.Honours D s kind receipt key host ∧
      c.Finishes D receipt key ⟨s.ledger, host⟩ s' := by
  cases kind with
  | asset =>
    obtain ⟨receipt, claims, rfl⟩ := map_eq_ok.1 h
    obtain ⟨key, host, honours, finishes⟩ := claimAsset_eq_ok claims
    exact ⟨receipt, key, host, rfl, honours, finishes⟩
  | message =>
    obtain ⟨receipt, claims, rfl⟩ := map_eq_ok.1 h
    obtain ⟨key, host, honours, finishes⟩ := claimMessage_eq_ok claims
    exact ⟨receipt, key, host, rfl, honours, finishes⟩

theorem Claim.settles_of_run (h : (Call.claim kind c).run D s = .ok answer s') :
    c.Settles D kind s answer s' := by
  obtain ⟨receipt, key, host, rfl, honours, finishes⟩ := exists_honours h
  obtain rfl := replayKey_of_verifyClaim honours.verified
  obtain rfl := honours.told
  obtain ⟨rfl, chain⟩ := finishes.chain
  obtain ⟨claimed, wrapped, rest⟩ := chain.claim
  exact ⟨rfl, honours.carried, claimed, ReplayGuard.isClaimed_mark claimed, wrapped, rest⟩

/-! ## Sessions -/

/-- **A claim is decided by its requirements.** However a ledger over a book has come to its state,
    and whatever the claim: it fails exactly if it does not meet all that is required of it, with
    the error of the first that it does not meet, and then nothing is changed; it succeeds exactly
    if it meets them all, and then it settles. -/
theorem claims_decided {past : List (Step Book)} {now : BridgeState Book}
    (session : Session D Book.Handled past now) (kind : LeafKind) (c : Claim) :
    (∀ e s', (Call.claim kind c).run D now = .error e s' ↔
      FirstFails (c.requirements D now kind) e ∧ s' = now) ∧
    ((∃ answer s', (Call.claim kind c).run D now = .ok answer s') ↔
      ∀ r ∈ c.requirements D now kind, r.met) ∧
    ∀ answer s', (Call.claim kind c).run D now = .ok answer s' →
      c.Settles D kind now answer s' := by
  refine ⟨fun e s' => ⟨fun failed => ?_, ?_⟩, ⟨?_, session.backed.exists_run_claim⟩,
    fun answer s' => Claim.settles_of_run⟩
  · rcases met_or_firstFails (c.requirements D now kind) with met | ⟨e', fails⟩
    · obtain ⟨answer, s', succeeded⟩ := session.backed.exists_run_claim met
      cases failed.symm.trans succeeded
    · cases failed.symm.trans (Claim.run_of_firstFails fails)
      exact ⟨fails, rfl⟩
  · rintro ⟨fails, rfl⟩
    exact Claim.run_of_firstFails fails
  · rintro ⟨answer, s', succeeded⟩
    rcases met_or_firstFails (c.requirements D now kind) with met | ⟨e', fails⟩
    · exact met
    · cases succeeded.symm.trans (Claim.run_of_firstFails fails)

end

/-- Network 1 honours a claim that creates a token. Made again for network 7, it is refused for its
    destination, and not for its proof or because it is claimed already. -/
theorem claims_decided_in_order : ∃ (D : Deployment) (i m : Step Book) (c : Claim)
    (receipt : ClaimReceipt), Session D Book.Handled [i] m.before ∧ m.call = .claim .asset c ∧
      (∀ r ∈ c.requirements D m.before .asset, r.met) ∧
      c.Settles D .asset m.before (.claim receipt) (m.after D) ∧
      receipt.newWrappedToken = some receipt.creditedToken ∧
      (m.after D).ledger.claimed.isClaimed (c.globalIndex.replayKey 0) = true ∧
      (Call.claim .asset { c with destinationNetwork := 7 }).run D (m.after D) =
        .error (.destinationNetworkInvalid 7 1) (m.after D) := by
  let config := LedgerConfig.replica 1 0 ⟨List.replicate 20 0xb0, rfl⟩
  let D : Deployment :=
    ⟨.keccak, config, ⟨config.bridgeAddress, config.wrappedTokenTemplate, .ofSalt⟩, none⟩
  let start : BridgeState Book := ⟨Deployment.genesis config, .empty config.bridgeAddress⟩
  let o : TokenOrigin := ⟨0, ⟨List.replicate 20 0xc3, rfl⟩⟩
  let receiver : Address := ⟨List.replicate 20 0xa1, rfl⟩
  have foreign : D.IsForeign o := ⟨by decide, Deployment.not_isGasToken rfl o, by decide⟩
  have session : Session D Book.Handled [] start :=
    .start (Deployment.create_of_validate
      (LedgerConfig.validate_replica (by decide) (by decide)) rfl)
  have free : start.host.isDeployed (D.wrapping.address D.hasher o [1]) = false := by
    simp [start, Book.isDeployed, Book.empty]
  obtain ⟨answer, host, applied⟩ := Book.exists_deployWrapped [1] receiver 5 free
  obtain ⟨i, m, c, receipt, r, wrapped, claimed, journal, granted, -, session⟩ :=
    session.exists_claim 0 rfl rfl (by simp [start, Deployment.genesis])
      (selectAsset_genesis foreign 1 receiver 5 [1]) applied
      (fun _ _ => by simp [start, Deployment.genesis, WrappedTokens.empty])
  have split : [i, m] = [i] ++ m :: [] := rfl
  have session : Session D Book.Handled [i] m.before := session.cut split
  have call := granted.credits.call
  have ran := Step.answer_eq_ok.1 granted.credits.answer
  rw [call] at ran
  obtain ⟨-, met, settles⟩ := claims_decided session .asset c
  have settled := settles _ _ ran
  have next : Session D Book.Handled [i, m] (m.after D) := .call session
  refine ⟨D, i, m, c, receipt, session, call, met.1 ⟨_, _, ran⟩, settled, ?_,
    (settled.bit _).2 (.inr rfl), ((claims_decided next .asset _).1 _ _).2 ⟨?_, rfl⟩⟩
  · rw [granted.newWrappedToken, granted.creditedToken]
  · have operational : (m.after D).ledger.emergency = false := by
      rw [settled.rest]
      exact met.1 ⟨_, _, ran⟩ _ List.mem_cons_self
    have elsewhere : (7 : UInt32) ≠ 1 := by decide
    exact firstFails_cons.2 (.inr ⟨operational, firstFails_cons.2 (.inl ⟨elsewhere, rfl⟩)⟩)

end ExitBridge
