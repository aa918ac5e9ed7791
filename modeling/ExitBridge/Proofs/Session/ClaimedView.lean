/-
  What the views of claimed leaves tell.

  A leaf can be asked for by its global index or by its network and number. The second view has no
  mainnet flag to go by, and takes the network with the mainnet's number for the mainnet. So it does
  not see the claims of a rollup to whose network that number belongs, which the ledger honours all
  the same, under a key without the flag.

  * `GlobalIndex.Overshadowed`: the indexes of such a rollup.
  * `Claiming.isClaimed_iff`: the view by network, in terms of the claims honoured so far.
  * `claims_seen_by_network`: over all sessions, both views and what they agree on.
  * `claims_seen_by_network_overshadowed`: a claim that one of them does not see.
-/
import ExitBridge.Proofs.Session.Claims
import ExitBridge.Proofs.Session.Decision

namespace ExitBridge

open LedgerM

/-! ## Indexes and keys -/

namespace GlobalIndex

variable {mainnet : UInt32} {g : GlobalIndex}

/-- A leaf of a rollup whose network has the mainnet's number. -/
def Overshadowed (mainnet : UInt32) (g : GlobalIndex) : Prop :=
  g.mainnetFlag = false ∧ g.source mainnet = mainnet

/-- Every other index has the flag exactly if its network is the mainnet. -/
theorem not_overshadowed_iff :
    ¬g.Overshadowed mainnet ↔ g.mainnetFlag = (g.source mainnet == mainnet) := by
  unfold Overshadowed
  constructor
  · intro seen
    cases flag : g.mainnetFlag with
    | true => rw [source_of_mainnet flag, beq_self_eq_true]
    | false => exact (beq_eq_false_iff_ne.2 fun same => seen ⟨flag, same⟩).symm
  · rintro flag ⟨off, same⟩
    rw [same, beq_self_eq_true, off] at flag
    cases flag

end GlobalIndex

/-! ## Claims honoured at an index -/

section

variable {σ : Type} [ExecutionHost σ] {D : Deployment} {past : List (Step σ)} {l : Ledger}
  {m : Step σ} {g : GlobalIndex}

/-- A claim of the leaf at an index was honoured. -/
def Step.HonoursAt (D : Deployment) (m : Step σ) (g : GlobalIndex) : Prop :=
  ∃ kind c, m.claim? D = some (kind, c) ∧ c.globalIndex = g

theorem Step.honoursUnder_iff {key : ScopeKey} : m.HonoursUnder D key ↔
    ∃ g, m.HonoursAt D g ∧ g.scopeKey D.config.mainnetNetworkId = .ok key := by
  constructor
  · rintro ⟨kind, c, hclaim, scope⟩
    exact ⟨c.globalIndex, ⟨kind, c, hclaim, rfl⟩, scope⟩
  · rintro ⟨_, ⟨kind, c, hclaim, rfl⟩, scope⟩
    exact ⟨kind, c, hclaim, scope⟩

namespace Claiming

theorem scopeKey_of_honoursAt (h : Claiming D past l) (hm : m ∈ past) (honours : m.HonoursAt D g) :
    g.scopeKey D.config.mainnetNetworkId =
      .ok (.ofParts g.mainnetFlag (g.source D.config.mainnetNetworkId) g.leafIndex) := by
  obtain ⟨kind, c, hclaim, rfl⟩ := honours
  obtain ⟨key, kind', c', hclaim', scope⟩ := h.keyed m hm (by rw [hclaim, Option.isSome_some])
  obtain ⟨-, rfl⟩ := Prod.mk.inj (Option.some.inj (hclaim.symm.trans hclaim'))
  rw [scope, GlobalIndex.key_of_scopeKey scope]

/-- **The view by network** tells of the claims honoured at any index of that network and leaf that
    is not overshadowed. -/
theorem isClaimed_iff (h : Claiming D past l) (leafIndex n : UInt32) :
    l.isClaimed D leafIndex n = true ↔
      ∃ m ∈ past, ∃ g, m.HonoursAt D g ∧ g.leafIndex = leafIndex ∧
        g.source D.config.mainnetNetworkId = n ∧ ¬g.Overshadowed D.config.mainnetNetworkId := by
  rw [Ledger.isClaimed, h.isClaimed]
  constructor
  · rintro ⟨m, hm, under⟩
    obtain ⟨g, honours, scope⟩ := Step.honoursUnder_iff.1 under
    obtain ⟨flag, rfl, rfl⟩ := ScopeKey.ofParts_inj.1 (GlobalIndex.key_of_scopeKey scope)
    exact ⟨m, hm, g, honours, rfl, rfl, GlobalIndex.not_overshadowed_iff.2 flag.symm⟩
  · rintro ⟨m, hm, g, honours, rfl, rfl, seen⟩
    refine ⟨m, hm, Step.honoursUnder_iff.2 ⟨g, honours, ?_⟩⟩
    rw [h.scopeKey_of_honoursAt hm honours, GlobalIndex.not_overshadowed_iff.1 seen]

/-- **The view by global index** tells of every honoured claim. -/
theorem isClaimedGlobal_of_honoursAt (h : Claiming D past l) (hm : m ∈ past)
    (honours : m.HonoursAt D g) : l.isClaimedGlobal D g = .ok true := by
  have scope := h.scopeKey_of_honoursAt hm honours
  refine Ledger.isClaimedGlobal_eq_true.2 ⟨_, scope, (h.isClaimed _).2 ⟨m, hm, ?_⟩⟩
  exact Step.honoursUnder_iff.2 ⟨g, honours, scope⟩

end Claiming

/-- Of a leaf that is not overshadowed, both views tell the same. -/
theorem Ledger.isClaimed_of_isClaimedGlobal {claimed : Bool}
    (told : l.isClaimedGlobal D g = .ok claimed)
    (seen : ¬g.Overshadowed D.config.mainnetNetworkId) :
    l.isClaimed D g.leafIndex (g.source D.config.mainnetNetworkId) = claimed := by
  rw [Ledger.isClaimedGlobal, except_bind_eq_ok] at told
  obtain ⟨key, scope, told⟩ := told
  obtain rfl := GlobalIndex.key_of_scopeKey scope
  rw [Ledger.isClaimed, ← GlobalIndex.not_overshadowed_iff.1 seen]
  exact Except.ok.inj told

end

/-! ## Both views -/

/-- **Which claims the view by network sees.** Whatever calls were made: it tells that a leaf of a
    network has been claimed exactly when a claim at an index of that leaf and network has been
    honoured, the indexes of a rollup that has the mainnet's number left aside. The view by global
    index tells of every honoured claim, and both tell the same of every other index. -/
theorem claims_seen_by_network {σ : Type} [ExecutionHost σ] {D : Deployment}
    {handled : σ → σ → Prop} {past : List (Step σ)} {now : BridgeState σ}
    (session : Session D handled past now) :
    (∀ leafIndex n, now.ledger.isClaimed D leafIndex n = true ↔
      ∃ m ∈ past, ∃ g, m.HonoursAt D g ∧ g.leafIndex = leafIndex ∧
        g.source D.config.mainnetNetworkId = n ∧ ¬g.Overshadowed D.config.mainnetNetworkId) ∧
    (∀ m ∈ past, ∀ g, m.HonoursAt D g → now.ledger.isClaimedGlobal D g = .ok true) ∧
    ∀ g claimed, now.ledger.isClaimedGlobal D g = .ok claimed →
      ¬g.Overshadowed D.config.mainnetNetworkId →
        now.ledger.isClaimed D g.leafIndex (g.source D.config.mainnetNetworkId) = claimed := by
  have claiming := session.claiming
  refine ⟨claiming.isClaimed_iff, ?_, ?_⟩
  · intro m hm g honours
    exact claiming.isClaimedGlobal_of_honoursAt hm honours
  · intro g claimed told seen
    exact Ledger.isClaimed_of_isClaimedGlobal told seen

/-! ## A rollup's message -/

/-- The claim of the first message of a rollup, an empty one, against the exit root that its paths
    lead to. -/
def Claim.ofRollup (H : NodeHasher) (rollup destination : UInt32) : Claim :=
  let c : Claim := { (default : Claim) with
    globalIndex := .rollup rollup 0
    destinationNetwork := destination }
  { c with
    rollupExitRoot :=
      c.rollupPath.fold H rollup (c.localPath.fold H 0 ((c.leaf H .message).hash H)) }

theorem Claim.provesLeaf_ofRollup (H : NodeHasher) (rollup destination : UInt32) :
    (ofRollup H rollup destination).provesLeaf H
      (((ofRollup H rollup destination).leaf H .message).hash H) = true := by
  have flag : (ofRollup H rollup destination).globalIndex.mainnetFlag = false := rfl
  rw [provesLeaf, flag, if_neg Bool.false_ne_true, InclusionPath.verify, beq_iff_eq]
  rfl

/-- A replica that is told the exit root honours the claim of a rollup's first message, if the host
    delivers it. -/
theorem Session.exists_claim_ofRollup {σ : Type} [ExecutionHost σ] {D : Deployment}
    {handled : σ → σ → Prop} {past : List (Step σ)} {now : BridgeState σ} {rollup : UInt32}
    {r : RootReplica} {delivery : ExecutionReceipt} {host : σ} (session : Session D handled past now)
    (network : rollup.toNat ≠ 2 ^ 32 - 1) (operational : now.ledger.emergency = false)
    (replica : now.ledger.roots = .replica r)
    (unclaimed : ∀ key, now.ledger.claimed.isClaimed key = false)
    (delivers : ExecutionHost.apply now.host
      (selectMessage D (.ofRollup D.hasher rollup D.config.networkId)).2 = .ok (delivery, host)) :
    ∃ i m now', Session D handled (past ++ [i, m]) now' ∧ m.HonoursAt D (.rollup rollup 0) ∧
      ∀ x ∈ [i, m], ∀ g, x.HonoursAt D g → g = .rollup rollup 0 := by
  let c : Claim := .ofRollup D.hasher rollup D.config.networkId
  obtain ⟨isNew, r', imports, known⟩ := exists_importGlobalExitRoot (D := D) replica
    ⟨c.mainnetExitRoot, c.rollupExitRoot⟩ 0
  have imported : (Call.importGlobalExitRoot ⟨c.mainnetExitRoot, c.rollupExitRoot⟩ 0).run D now =
      .ok _ _ := map_eq_ok.2 ⟨isNew, imports, rfl⟩
  obtain ⟨told, learned⟩ := session.call_ok imported
  let m : Step σ := ⟨{ now with ledger := { now.ledger with roots := .replica r' } },
    .claim .message c⟩
  have scope : c.globalIndex.scopeKey D.config.mainnetNetworkId = .ok _ :=
    GlobalIndex.scopeKey_of_hasNetwork (.inr network) _
  have verified : verifyClaim D m.before.ledger.roots .message c = .ok _ :=
    verifyClaim_eq_ok.2 ⟨rfl, known, Claim.provesLeaf_ofRollup _ _ _, scope⟩
  obtain ⟨receipt, s', claims⟩ := exists_claimMessage (s := m.before)
    (admitClaim_eq_ok.2 ⟨operational, verified, unclaimed _, rfl⟩) delivers
  have claimed : m.call.run D m.before = .ok _ _ := map_eq_ok.2 ⟨receipt, claims, rfl⟩
  obtain ⟨honoured, answered⟩ := told.call_ok claimed
  rw [List.append_assoc] at honoured
  have hclaim : m.claim? D = some (.message, c) := by
    rw [Step.claim?, answered]
    rfl
  refine ⟨_, m, s', honoured, ⟨.message, c, hclaim, rfl⟩, ?_⟩
  rintro x hx _ ⟨kind', c', hclaim', rfl⟩
  simp only [List.mem_cons, List.not_mem_nil, or_false] at hx
  rcases hx with rfl | rfl
  · -- to be told an exit root honours nothing
    rw [Step.claim?, learned] at hclaim'
    cases hclaim'
  · obtain ⟨-, rfl⟩ := Prod.mk.inj (Option.some.inj (hclaim.symm.trans hclaim'))
    rfl

/-- Network 2, a replica of network 1. -/
def Deployment.second : Deployment :=
  let config := LedgerConfig.replica 2 1 ⟨List.replicate 20 0xb0, rfl⟩
  ⟨.keccak, config, ⟨config.bridgeAddress, config.wrappedTokenTemplate, .ofSalt⟩, none⟩

theorem Deployment.exists_second (rollup : UInt32) (network : rollup.toNat ≠ 2 ^ 32 - 1) :
    ∃ (i m : Step Host) (now : BridgeState Host), Session second Eq [i, m] now ∧
      m.HonoursAt second (.rollup rollup 0) ∧
      ∀ x ∈ [i, m], ∀ g, x.HonoursAt second g → g = .rollup rollup 0 := by
  have session : Session second Eq [] ⟨genesis second.config, Host.accepting⟩ :=
    .start (create_of_validate (LedgerConfig.validate_replica (by decide) (by decide)) rfl)
  exact session.exists_claim_ofRollup network rfl rfl (by simp [genesis]) rfl

/-- The message of network 3 is seen. -/
theorem claims_seen_by_network_second : ∃ (past : List (Step Host)) (now : BridgeState Host)
    (m : Step Host) (g : GlobalIndex), Session .second Eq past now ∧ m ∈ past ∧
      m.HonoursAt .second g ∧ g.source 1 = 3 ∧
      now.ledger.isClaimed .second g.leafIndex 3 = true := by
  obtain ⟨i, m, now, session, honours, -⟩ := Deployment.exists_second 2 (by decide)
  obtain ⟨sees, -, -⟩ := claims_seen_by_network session
  have seen : ¬(GlobalIndex.rollup 2 0).Overshadowed 1 := by
    rintro ⟨-, same⟩
    exact absurd same (by decide)
  refine ⟨_, now, m, .rollup 2 0, session, by simp, honours, rfl, (sees _ _).2 ?_⟩
  exact ⟨m, by simp, _, honours, rfl, rfl, seen⟩

/-- The message of the rollup that has the number of the mainnet is honoured, and not seen. -/
theorem claims_seen_by_network_overshadowed : ∃ (past : List (Step Host)) (now : BridgeState Host)
    (m : Step Host) (g : GlobalIndex), Session .second Eq past now ∧ m ∈ past ∧
      m.HonoursAt .second g ∧ g.source 1 = 1 ∧
      now.ledger.isClaimedGlobal .second g = .ok true ∧
      now.ledger.isClaimed .second g.leafIndex 1 = false := by
  obtain ⟨i, m, now, session, honours, only⟩ := Deployment.exists_second 0 (by decide)
  have claiming := session.claiming
  refine ⟨_, now, m, .rollup 0 0, session, by simp, honours, rfl,
    claiming.isClaimedGlobal_of_honoursAt (by simp) honours, Bool.eq_false_iff.2 fun seen => ?_⟩
  obtain ⟨x, hx, g, honours', -, -, bright⟩ := (claiming.isClaimed_iff _ _).1 seen
  obtain rfl := only x hx g honours'
  exact bright ⟨rfl, rfl⟩

end ExitBridge
