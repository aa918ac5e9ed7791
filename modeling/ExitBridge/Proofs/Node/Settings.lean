/-
  Settings that pass validation.

  A node is created from settings once they have been validated. Validated settings describe a node
  that can be created, and peers of different networks, none of them the mainnet. Which peers the
  node can follow is decided later, when it first folds in their roots: a rollup index that belongs
  to a network need not be one that is tracked.

  * `Settings.Sound`: what validation asks of settings; `Settings.validate_eq_ok`: it asks nothing
    else.
  * `Node.exists_create_of_validate`: such settings make a node, whatever its gas token.
  * `Node.Folds`: a rollup can be followed. `Polling.folds`: any tracked one, while there is room;
    `Polling.refuses`: no other, at any time.
  * `Polling.follows`, `Polling.refuses_poll`: the same for polls.
  * `validated_settings_work`: all settings that pass.
-/
import ExitBridge.Proofs.Node.Polling
import ExitBridge.Proofs.Session.Deployed

namespace ExitBridge

/-! ## Validation -/

namespace Settings

variable {s : Settings} {mainnet : UInt32} {seen : List UInt32} {peers : List RollupPeer}

/-- Peers are accepted if no index occurs twice and each belongs to a network that is not the
    mainnet. -/
theorem validatePeers_eq_ok : validatePeers mainnet seen peers = .ok () ↔
    (∀ p ∈ peers, p.rollupIndex ∉ seen) ∧ (peers.map (·.rollupIndex)).Nodup ∧
      ∀ p ∈ peers, ∃ network, rollupNetworkId p.rollupIndex = .ok network ∧ network ≠ mainnet := by
  induction peers generalizing seen with
  | nil => simp [validatePeers]
  | cons p peers ih =>
    rw [validatePeers]
    split
    · rename_i taken
      exact iff_of_false nofun fun ⟨fresh, _⟩ => fresh p List.mem_cons_self taken
    · rename_i fresh
      split
      · rename_i none
        refine iff_of_false nofun fun ⟨_, _, networks⟩ => ?_
        obtain ⟨network, some, -⟩ := networks p List.mem_cons_self
        cases none.symm.trans some
      · rename_i network some
        split
        · rename_i same
          refine iff_of_false nofun fun ⟨_, _, networks⟩ => ?_
          obtain ⟨network', some', other⟩ := networks p List.mem_cons_self
          exact other ((Except.ok.inj (some'.symm.trans some)).trans same)
        · rename_i other
          -- the others differ from this one and from those before it
          have apart : (∀ q ∈ peers, q.rollupIndex ∉ p.rollupIndex :: seen) ↔
              p.rollupIndex ∉ peers.map (·.rollupIndex) ∧ ∀ q ∈ peers, q.rollupIndex ∉ seen := by
            simp only [List.mem_cons, not_or, List.mem_map, not_exists, not_and]
            exact forall₂_and
          rw [ih, apart, List.map_cons, List.nodup_cons]
          simp only [List.forall_mem_cons, some, Except.ok.injEq, exists_eq_left']
          tauto

/-- What validation asks of settings. -/
@[mk_iff] structure Sound (s : Settings) : Prop where
  role : s.aggregatorAuthority = (s.networkId == s.mainnetNetworkId)
  source : s.aggregatorAuthority = true → s.peerUrl = none
  rollups : s.aggregatorAuthority = false → s.rollupPeers = []
  interval : s.syncIntervalMs ≠ 0
  distinct : (s.rollupPeers.map (·.rollupIndex)).Nodup
  networks : ∀ p ∈ s.rollupPeers,
    ∃ network, rollupNetworkId p.rollupIndex = .ok network ∧ network ≠ s.mainnetNetworkId
  ledger : s.ledgerConfig.validate = .ok ()

/-- **Validation** accepts sound settings, and no others. -/
theorem validate_eq_ok : s.validate = .ok () ↔ s.Sound := by
  have ledger : s.ledgerConfig.validate.mapError SettingsError.ledger = .ok () ↔
      s.ledgerConfig.validate = .ok () := by
    cases s.ledgerConfig.validate <;> simp [Except.mapError]
  unfold validate
  simp only [ite_eq_iff, except_bind_eq_ok, throw, throwThe, MonadExceptOf.throw, reduceCtorEq,
    false_and, and_false, exists_false, false_or]
  rw [sound_iff]
  refine and_congr not_not (and_congr ?_ (and_congr ?_ (and_congr Iff.rfl ?_)))
  · cases s.peerUrl <;> simp
  · cases s.aggregatorAuthority <;> simp
  · rw [Unique.exists_iff]
    exact (and_congr validatePeers_eq_ok ledger).trans (by simp [and_assoc])

/-- Different peers belong to different networks. -/
theorem Sound.apart (sound : s.Sound) : s.rollupPeers.Pairwise fun p q =>
    rollupNetworkId p.rollupIndex ≠ rollupNetworkId q.rollupIndex := by
  refine (List.pairwise_map.1 sound.distinct).imp_of_mem fun {p q} hp hq other same => other ?_
  obtain ⟨network, belongs, -⟩ := sound.networks p hp
  have first := PeerSync.rollupNetworkId_eq_ok.1 belongs
  have second := PeerSync.rollupNetworkId_eq_ok.1 (same ▸ belongs)
  exact UInt32.toNat_inj.1 (by omega)

theorem Sound.authority (sound : s.Sound) {p : RollupPeer} (hp : p ∈ s.rollupPeers) :
    s.aggregatorAuthority = true := by
  by_contra replica
  rw [sound.rollups (Bool.not_eq_true _ ▸ replica)] at hp
  cases hp

end Settings

/-! ## Creation -/

/-- Valid settings of a ledger make a node, whatever its gas token. -/
theorem Node.exists_create_of_validate (H : NodeHasher) {s : Settings}
    (valid : s.ledgerConfig.validate = .ok ()) : ∃ n, create H s = .ok n := by
  cases gasToken : s.ledgerConfig.effectiveGasToken? with
  | none => exact exists_create H valid gasToken
  | some gas =>
    have gasToken : s.ledgerConfig.effectiveGasToken?.isSome = true := by
      rw [gasToken]
      rfl
    obtain ⟨book, ensured⟩ :=
      (Book.empty s.bridgeAddress).exists_ensureDeployed _ Deployment.wethMetadata
    unfold create
    rw [Deployment.create_of_ensureDeployed valid gasToken rfl ensured]
    exact ⟨_, rfl⟩

/-! ## Folding -/

/-- Any root of the rollup can be folded in, and is stored. -/
def Node.Folds (n : Node) (index : UInt32) : Prop :=
  ∀ now root, ∃ told n', n.updateRollupExitRoot now index root = (.ok told, n') ∧
    n'.ledger.roots.view.rollups.get? index = some root

/-- The error about a rollup that is not tracked. -/
def untrackedRollup (index : UInt32) : LedgerError :=
  .invalidConfig s!"rollup index {index} exceeds {maxTrackedRollups}"

/-- No root of the rollup can be folded in, since it is not tracked. -/
def Node.Refuses (n : Node) (index : UInt32) : Prop :=
  ∀ now root, (n.updateRollupExitRoot now index root).1 = .error (untrackedRollup index) ∧
    n.Same (n.updateRollupExitRoot now index root).2

theorem updateRollupExitRoot_of_untracked {σ : Type} {D : Deployment} {s : BridgeState σ}
    {a : RootAuthority} {index : UInt32} (root : Digest) (block : BlockContext)
    (authority : s.ledger.roots = .authority a) (untracked : maxTrackedRollups ≤ index.toNat) :
    updateRollupExitRoot D index root block s = .error (untrackedRollup index) s := by
  have refused : a.updateRollup D.hasher index root block = .error (untrackedRollup index) := by
    rw [RootAuthority.updateRollup, RollupRoots.set, if_pos untracked]
    rfl
  simp only [updateRollupExitRoot, LedgerM.bind_eq_error]
  refine .inr ⟨_, _, LedgerM.ledger_eq_ok.2 ⟨rfl, rfl⟩, ?_⟩
  rw [authority]
  exact LedgerM.bind_eq_error.2 (.inl (LedgerM.ofResult_eq_error.2 ⟨refused, rfl⟩))

namespace Polling

variable {H : NodeHasher} {s : PeerSync} {n : Node} {index : UInt32}

/-- A tracked rollup can be folded in as long as there is room for a new global exit root. -/
theorem folds (polling : Polling H s n) (room : n.ledger.roots.canPublish = true)
    (tracked : index.toNat < maxTrackedRollups) : n.Folds index := by
  intro now root
  obtain ⟨a, authority⟩ := polling.exists_authority
  have room : a.l1InfoTree.isFull = false := by
    rw [authority] at room
    simpa [RootStore.canPublish] using room
  obtain ⟨told, after, a', run, roots, stored, -⟩ := exists_updateRollupExitRoot
    (D := n.deployment) root (n.drawBlock now).1 authority room tracked
  have published := n.publish_eq now (updateRollupExitRoot n.deployment index root)
  rw [run] at published
  obtain ⟨ok, bridge⟩ := published
  refine ⟨told, _, Prod.ext ok rfl, ?_⟩
  change (n.updateRollupExitRoot now index root).2.bridge = after at bridge
  rw [Node.ledger, bridge, roots]
  exact stored

theorem refuses (polling : Polling H s n) (untracked : maxTrackedRollups ≤ index.toNat) :
    n.Refuses index := by
  intro now root
  obtain ⟨a, authority⟩ := polling.exists_authority
  have published := n.publish_eq now (updateRollupExitRoot n.deployment index root)
  rw [updateRollupExitRoot_of_untracked root _ authority untracked] at published
  refine ⟨published.1, ?_⟩
  rcases n.updateRollupExitRoot_cases now index root with ⟨told, ok, -⟩ | ⟨e, -, same⟩
  · cases ok.symm.trans published.1
  · exact same

theorem folded_of_untracked (polling : Polling H s n)
    (untracked : maxTrackedRollups ≤ index.toNat) : s.folded[index]? = none := by
  induction polling with
  | start => simp [PeerSync.empty]
  | acts _ _ ih => exact ih
  | @poll s n _ now index' peer ih =>
    have polled := s.polled n now index' peer
    generalize s.syncRollup n now index' peer = answer at polled ⊢
    obtain ⟨result, s', n'⟩ := answer
    cases polled with
    | unread => exact ih
    | skipped => exact ih
    | failed => exact ih
    | folded _ set =>
      have other : index' ≠ index := by
        rintro rfl
        exact absurd (RollupRoots.tracked_of_set set) (Nat.not_lt.2 untracked)
      rw [Std.HashMap.getElem?_insert, if_neg (by simpa using other)]
      exact ih

/-- The poll of a tracked rollup's own node succeeds as long as there is room. -/
theorem follows (polling : Polling H s n) (room : n.ledger.roots.canPublish = true)
    (tracked : index.toNat < maxTrackedRollups) (now : UInt64) {peer : Node}
    (network : peer.deployment.config.networkId.toNat = index.toNat + 1) :
    ∃ told, (s.syncRollup n now index (some peer)).1 = .ok told := by
  have polled := s.polled n now index (some peer)
  have folds := polling.folds room tracked
  generalize s.syncRollup n now index (some peer) = answer at polled ⊢
  cases polled with
  | unread refused => cases refused.symm.trans (PeerSync.reportedRoot_of_network network)
  | skipped => exact ⟨none, rfl⟩
  | @failed root e _ _ refused =>
    obtain ⟨told, n', ok, -⟩ := folds now root
    rw [ok] at refused
    cases refused
  | @folded root told => exact ⟨some told, rfl⟩

theorem refuses_poll (polling : Polling H s n) (untracked : maxTrackedRollups ≤ index.toNat)
    (now : UInt64) {peer : Option Node} {root : Digest}
    (reported : PeerSync.reportedRoot index peer = .ok (some root)) (some : root ≠ .zero) :
    (s.syncRollup n now index peer).1 = .error (.rollupUpdate (untrackedRollup index)) := by
  have polled := s.polled n now index peer
  generalize s.syncRollup n now index peer = answer at polled ⊢
  cases polled with
  | unread refused => cases refused.symm.trans reported
  | skipped read current =>
    cases read.symm.trans reported
    rcases Bool.or_eq_true_iff.1 (current root rfl) with remembered | unreported
    · rw [polling.folded_of_untracked untracked] at remembered
      cases remembered
    · exact absurd (eq_of_beq (Bool.and_eq_true_iff.1 unreported).1) some
  | failed read refused =>
    cases read.symm.trans reported
    cases refused.symm.trans (polling.refuses untracked now root).1
    rfl
  | folded read set => exact absurd (RollupRoots.tracked_of_set set) (Nat.not_lt.2 untracked)

end Polling

/-! ## Settings that work -/

/-- **Validated settings work, but for rollups that are not tracked.** Settings that pass validation
    make a node. Their peers belong to different networks, none of them the mainnet. Any root of a
    tracked one can be folded in by the new node; at any later time polls of the rollup's own node
    succeed as long as there is room for a new global exit root. Validation also accepts rollups
    that belong to a network but are not tracked: at no time can a root of theirs be folded in, and
    every poll fails once their node has a root to report. -/
theorem validated_settings_work (H : NodeHasher) {s : Settings} (accepted : s.validate = .ok ()) :
    ∃ n, Node.create H s = .ok n ∧
      (∀ p ∈ s.rollupPeers, ∃ network, rollupNetworkId p.rollupIndex = .ok network ∧
        network ≠ s.mainnetNetworkId) ∧
      (s.rollupPeers.Pairwise fun p q =>
        rollupNetworkId p.rollupIndex ≠ rollupNetworkId q.rollupIndex) ∧
      ∀ p ∈ s.rollupPeers, Polling H .empty n ∧
        (p.rollupIndex.toNat < maxTrackedRollups → n.Folds p.rollupIndex ∧
          ∀ folded later, Polling H folded later → later.ledger.roots.canPublish = true →
            ∀ now (peer : Node),
              peer.deployment.config.networkId.toNat = p.rollupIndex.toNat + 1 →
              ∃ told, (folded.syncRollup later now p.rollupIndex (some peer)).1 = .ok told) ∧
        (maxTrackedRollups ≤ p.rollupIndex.toNat →
          ∀ folded later, Polling H folded later → later.Refuses p.rollupIndex ∧
            ∀ now peer root, PeerSync.reportedRoot p.rollupIndex peer = .ok (some root) →
              root ≠ .zero → (folded.syncRollup later now p.rollupIndex peer).1 =
                .error (.rollupUpdate (untrackedRollup p.rollupIndex))) := by
  have sound := Settings.validate_eq_ok.1 accepted
  obtain ⟨n, created⟩ := Node.exists_create_of_validate H sound.ledger
  refine ⟨n, created, sound.networks, sound.apart, fun p hp => ?_⟩
  have start : Polling H .empty n := .start created (sound.authority hp)
  refine ⟨start, fun tracked => ⟨start.folds ?_ tracked, ?_⟩, fun beyond => ?_⟩
  · obtain ⟨-, genesis, -⟩ := Node.create_eq_ok created
    rw [genesis, Deployment.genesis, Node.isAuthority_ledgerConfig, sound.authority hp]
    rfl
  · intro folded later polling room now peer network
    exact polling.follows room tracked now network
  · intro folded later polling
    exact ⟨polling.refuses beyond, fun now peer root => polling.refuses_poll beyond now⟩

/-- The settings of network 0 as the authority over some rollups. -/
def Settings.authorityOver (rollups : List RollupPeer) : Settings where
  networkId := 0
  mainnetNetworkId := 0
  aggregatorAuthority := true
  bridgeAddress := LedgerConfig.standard.bridgeAddress
  gasToken := none
  apiBindAddress := "127.0.0.1"
  apiPort := 9100
  adminToken := none
  enableDevFaucet := false
  peerUrl := none
  rollupPeers := rollups
  syncIntervalMs := 2000
  rootUpdateIntervalMs := 10000
  journalRetention := none

theorem Settings.validate_authorityOver {rollups : List RollupPeer}
    (distinct : (rollups.map (·.rollupIndex)).Nodup)
    (networks : ∀ p ∈ rollups, p.rollupIndex.toNat + 1 < 2 ^ 32) :
    (authorityOver rollups).validate = .ok () := by
  have bridge : LedgerConfig.standard.bridgeAddress ≠ .zero := by decide
  refine validate_eq_ok.2 ⟨rfl, fun _ => rfl, nofun, nofun, distinct, fun p hp => ?_,
    LedgerConfig.validate_authority 0 bridge⟩
  have belongs : rollupNetworkId p.rollupIndex = .ok (p.rollupIndex + 1) := if_pos (networks p hp)
  refine ⟨_, belongs, fun mainnet => ?_⟩
  have successor := PeerSync.rollupNetworkId_eq_ok.1 belongs
  rw [mainnet] at successor
  cases successor

/-- Rollups 0 and 4 pass, and can be followed. -/
theorem validated_settings_work_two : ∃ n,
    (Settings.authorityOver [⟨0, "http://rollup-1"⟩, ⟨4, "http://rollup-5"⟩]).validate = .ok () ∧
      Node.create .keccak
        (.authorityOver [⟨0, "http://rollup-1"⟩, ⟨4, "http://rollup-5"⟩]) = .ok n ∧
      n.Folds 0 ∧ n.Folds 4 := by
  have accepted : (Settings.authorityOver
      [⟨0, "http://rollup-1"⟩, ⟨4, "http://rollup-5"⟩]).validate = .ok () :=
    Settings.validate_authorityOver (by decide) (by decide)
  obtain ⟨n, created, -, -, rollups⟩ := validated_settings_work .keccak accepted
  refine ⟨n, accepted, created, ?_, ?_⟩
  · exact ((rollups ⟨0, _⟩ List.mem_cons_self).2.1 (by decide)).1
  · exact ((rollups ⟨4, _⟩ (List.mem_cons_of_mem _ List.mem_cons_self)).2.1 (by decide)).1

/-- Rollup 65536 passes, and cannot be followed. -/
theorem validated_settings_work_beyond : ∃ n,
    (Settings.authorityOver [⟨65536, "http://rollup-65537"⟩]).validate = .ok () ∧
      Node.create .keccak (.authorityOver [⟨65536, "http://rollup-65537"⟩]) = .ok n ∧
      ∀ now root, (n.updateRollupExitRoot now 65536 root).1 =
        .error (.invalidConfig "rollup index 65536 exceeds 65536") := by
  have accepted : (Settings.authorityOver [⟨65536, "http://rollup-65537"⟩]).validate = .ok () :=
    Settings.validate_authorityOver (by decide) (by decide)
  obtain ⟨n, created⟩ := Node.exists_create_of_validate .keccak
    (Settings.validate_eq_ok.1 accepted).ledger
  have start : Polling .keccak .empty n := .start created rfl
  have refuses : n.Refuses 65536 := start.refuses (by decide)
  exact ⟨n, accepted, created, fun now root => (refuses now root).1⟩

end ExitBridge
