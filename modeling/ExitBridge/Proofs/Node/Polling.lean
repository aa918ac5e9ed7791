/-
  An authority that asks its rollups, and what it has stored of them.

  The authority remembers beside its ledger which root of each rollup it has folded in last, and
  asks the ledger only for another one. What it remembers and what the ledger has stored are written
  at different places; they agree as long as nothing else folds, however often a call fails.

  * `Call.folds`, `Node.Acts.rollups`: nothing but a fold touches the rollups' roots.
  * `Polling`: an authority, and polls of peers among all else that it does; `Polling.pollOnce`: its
    rounds are such.
  * `PeerSync.Polled`: the ways a poll can go. `PeerSync.Tracks`: what is remembered is stored;
    `Polling.tracks`: at any time.
  * `rollup_polls_track_peers`: over all polls.
-/
import ExitBridge.Proofs.Node.Follow
import ExitBridge.Proofs.Session.Publications

namespace ExitBridge

/-! ## Folding -/

/-- Does the call fold in a rollup's exit root? -/
def Call.folds : Call → Bool
  | updateRollupExitRoot .. => true
  | _ => false

/-- Does the operation? -/
def NodeCall.folds : NodeCall → Bool
  | updateRollupExitRoot .. => true
  | _ => false

section

variable {σ : Type} [ExecutionHost σ] {D : Deployment} {s : BridgeState σ} {call : Call}
  {answer : Answer} {l' : Ledger}

theorem Advance.rollups (h : Advance D s call answer l') (other : call.folds = false) :
    l'.roots.view.rollups = s.ledger.roots.view.rollups := by
  have read {core : LedgerCore} (same : l'.core = core) :
      l'.roots.view.rollups = core.roots.rollups := congrArg (·.roots.rollups) same
  cases h with
  | deposit _ deposited =>
    rw [read deposited.core]
    dsimp only
    split
    · rfl
    · rfl
  | claim _ marked => exact read marked.core
  | publish core => exact read core
  | fold => cases other
  | learn _ _ core => exact read core
  | toggle _ core => exact read core

theorem Step.rollups {m : Step σ} (other : m.call.folds = false) :
    (m.after D).ledger.roots.view.rollups = m.before.ledger.roots.view.rollups := by
  cases h : m.answer D with
  | ok answer => exact (Call.run_ok (answer_eq_ok.1 h)).rollups other
  | error e => rw [ledger_of_error h]

end

theorem NodeCall.folds_of_call? {n : Node} {c : NodeCall} {call : Call}
    (h : c.call? n = some call) : call.folds = c.folds := by
  cases c with
  | updateGlobalExitRoot now force =>
    rw [call?] at h
    split at h
    · cases h
    · obtain rfl := Option.some.inj h
      rfl
  | setEmergencyState active =>
    obtain rfl := Option.some.inj h
    cases active <;> rfl
  | _ =>
    obtain rfl := Option.some.inj h
    rfl

namespace Node

variable {H : NodeHasher} {n n' : Node} {now : UInt64} {index : UInt32} {root : Digest}

theorem Acts.rollups (h : n.Acts (fun c => c.folds = false) n') :
    n'.ledger.roots.view.rollups = n.ledger.roots.view.rollups := by
  cases h with
  | @operation c other =>
    cases hc : c.call? n with
    | none => rw [NodeCall.run_of_call?_eq_none hc]
    | some call =>
      rw [(NodeCall.called hc).ledger]
      exact Step.rollups (m := ⟨n.bridge, call⟩) ((NodeCall.folds_of_call? hc).trans other)
  | handled change => rfl
  | noted same => rw [same.ledger]

theorem publish_eq {α : Type} (n : Node) (now : UInt64) (op : BlockContext → LedgerM Book α) :
    match op (n.drawBlock now).1 n.bridge with
    | .ok a s => (n.publish now op).1 = .ok a ∧ (n.publish now op).2.bridge = s
    | .error e s => (n.publish now op).1 = .error e ∧ (n.publish now op).2.bridge = s := by
  have drawn : (n.drawBlock now).2.bridge = n.bridge := rfl
  unfold publish perform
  simp only [drawn]
  cases op (n.drawBlock now).1 n.bridge with
  | ok a s => exact ⟨rfl, (same_countPublished _ _).bridge⟩
  | error e s => exact ⟨rfl, rfl⟩

/-- A fold sets the rollup's root, or fails and leaves the ledger as it is. -/
theorem updateRollupExitRoot_cases (n : Node) (now : UInt64) (index : UInt32) (root : Digest) :
    (∃ told, (n.updateRollupExitRoot now index root).1 = .ok told ∧
      n.ledger.roots.view.rollups.set index root =
        .ok (n.updateRollupExitRoot now index root).2.ledger.roots.view.rollups) ∨
    ∃ e, (n.updateRollupExitRoot now index root).1 = .error e ∧
      n.Same (n.updateRollupExitRoot now index root).2 := by
  have published := n.publish_eq now (ExitBridge.updateRollupExitRoot n.deployment index root)
  have called : n.Called (.updateRollupExitRoot index root (n.drawBlock now).1)
      (n.updateRollupExitRoot now index root).2 := called_publish rfl
  cases hop : ExitBridge.updateRollupExitRoot n.deployment index root (n.drawBlock now).1
      n.bridge with
  | ok told s =>
    rw [hop] at published
    obtain ⟨ok, bridge⟩ := published
    obtain ⟨-, rollups, set, core, -⟩ := updateRollupExitRoot_eq_ok hop
    have stored : s.ledger.roots.view.rollups = rollups := congrArg (·.roots.rollups) core
    refine .inl ⟨told, ok, ?_⟩
    rw [set, ← stored, ← bridge]
    rfl
  | error e s =>
    rw [hop] at published
    obtain ⟨error, bridge⟩ := published
    obtain ⟨-, rfl⟩ := updateRollupExitRoot_eq_error hop
    exact .inr ⟨e, error, called.deployment, bridge⟩

end Node

/-! ## Polls -/

namespace PeerSync

variable {s s' : PeerSync} {n n' : Node} {now : UInt64} {index : UInt32} {peer : Option Node}

/-- The ways a poll can go. -/
inductive Polled (s : PeerSync) (n : Node) (now : UInt64) (index : UInt32) (peer : Option Node) :
    Except SyncError (Option Digest) × PeerSync × Node → Prop
  /-- The peer reports nothing that belongs to the rollup. -/
  | unread {e : SyncError} (refused : reportedRoot index peer = .error e) :
      Polled s n now index peer (.error e, s, n)
  /-- There is nothing to fold in. -/
  | skipped {reported : Option Digest} (read : reportedRoot index peer = .ok reported)
      (current : ∀ root ∈ reported, s.isCurrent index root = true) :
      Polled s n now index peer (.ok none, s, n)
  /-- The ledger refuses to fold it in. -/
  | failed {root : Digest} {e : LedgerError} {n' : Node}
      (read : reportedRoot index peer = .ok (some root))
      (refused : (n.updateRollupExitRoot now index root).1 = .error e) (same : n.Same n') :
      Polled s n now index peer (.error (.rollupUpdate e), s, n')
  | folded {root told : Digest} {n' : Node}
      (read : reportedRoot index peer = .ok (some root))
      (set : n.ledger.roots.view.rollups.set index root = .ok n'.ledger.roots.view.rollups) :
      Polled s n now index peer (.ok (some told), ⟨s.folded.insert index root⟩, n')

theorem polled (s : PeerSync) (n : Node) (now : UInt64) (index : UInt32) (peer : Option Node) :
    s.Polled n now index peer (s.syncRollup n now index peer) := by
  unfold syncRollup
  split
  · rename_i refused
    exact .unread refused
  · rename_i read
    exact .skipped read nofun
  · rename_i root read
    split
    · rename_i current
      refine .skipped read ?_
      rintro _ ⟨⟩
      exact current
    · have cases := n.updateRollupExitRoot_cases now index root
      split
      · rename_i e n' update
        rw [update] at cases
        rcases cases with ⟨told, ok, -⟩ | ⟨e', -, same⟩
        · cases ok
        · exact .failed read (by rw [update]) same
      · rename_i told n' update
        rw [update] at cases
        rcases cases with ⟨told', -, set⟩ | ⟨e', error, -⟩
        · exact .folded read set
        · cases error

/-- A rollup index belongs to the network that follows it, if there is one. -/
theorem rollupNetworkId_eq_ok {network : UInt32} :
    rollupNetworkId index = .ok network ↔ network.toNat = index.toNat + 1 := by
  rw [rollupNetworkId]
  constructor
  · intro h
    split at h
    · rename_i inside
      cases h
      rw [UInt32.toNat_add, UInt32.toNat_one, Nat.mod_eq_of_lt inside]
    · cases h
  · intro h
    have inside : index.toNat + 1 < 2 ^ 32 := h ▸ network.toNat_lt
    rw [if_pos inside, Except.ok.injEq, ← UInt32.toNat_inj, h, UInt32.toNat_add, UInt32.toNat_one,
      Nat.mod_eq_of_lt inside]

theorem reportedRoot_of_network {peer : Node}
    (network : peer.deployment.config.networkId.toNat = index.toNat + 1) :
    reportedRoot index (some peer) = .ok peer.ledger.lastLocalExitRoot? := by
  simp only [reportedRoot, Node.rootResponse, rollupNetworkId_eq_ok.2 network, ne_eq,
    not_true_eq_false, if_false]

theorem exists_reportedRoot_error {peer : Node}
    (network : peer.deployment.config.networkId.toNat ≠ index.toNat + 1) :
    ∃ e, reportedRoot index (some peer) = .error e := by
  rw [Ne, ← rollupNetworkId_eq_ok] at network
  cases expected : rollupNetworkId index with
  | error e =>
    simp only [reportedRoot, expected]
    exact ⟨_, rfl⟩
  | ok network' =>
    have other : peer.rootResponse.networkId ≠ network' := by
      rintro rfl
      exact network expected
    simp only [reportedRoot, expected, if_pos other]
    exact ⟨_, rfl⟩

/-! ## What is remembered -/

/-- What is remembered of a rollup is what the ledger has stored of it, and nothing is stored of the
    others. -/
def Tracks (s : PeerSync) (n : Node) : Prop :=
  ∀ index : UInt32,
    n.ledger.roots.view.rollups.rootAt index.toNat = s.folded[index]?.getD .zero

theorem Tracks.of_rollups (tracks : s.Tracks n)
    (same : n'.ledger.roots.view.rollups = n.ledger.roots.view.rollups) : s.Tracks n' := by
  intro index
  rw [same]
  exact tracks index

theorem Tracks.rootAt_of_isCurrent (tracks : s.Tracks n) {root : Digest}
    (current : s.isCurrent index root = true) :
    n.ledger.roots.view.rollups.rootAt index.toNat = root := by
  rw [tracks index]
  rcases Bool.or_eq_true_iff.1 current with remembered | unreported
  · rw [eq_of_beq remembered]
    rfl
  · obtain ⟨zero, unknown⟩ := Bool.and_eq_true_iff.1 unreported
    have none : s.folded[index]? = none := by simpa using unknown
    rw [none, eq_of_beq zero]
    rfl

/-- **A poll** keeps what is remembered in step with what is stored. -/
theorem Polled.tracks {result : Except SyncError (Option Digest)}
    (polled : s.Polled n now index peer (result, s', n')) (tracks : s.Tracks n) :
    s'.Tracks n' := by
  cases polled with
  | unread => exact tracks
  | skipped => exact tracks
  | failed _ _ same => exact tracks.of_rollups (by rw [same.ledger])
  | folded _ set =>
    intro i
    rw [RollupRoots.rootAt_set set, tracks i, Std.HashMap.getElem?_insert]
    by_cases same : i = index
    · subst same
      simp
    · have other : i.toNat ≠ index.toNat := fun h => same (UInt32.toNat_inj.1 h)
      rw [if_neg other, if_neg (by simpa using Ne.symm same)]

end PeerSync

/-! ## Polling -/

/-- An authority and what it remembers of its rollups, which changes by polls alone. The peers are
    any nodes at any time, or cannot be reached. -/
inductive Polling (H : NodeHasher) : PeerSync → Node → Prop
  | start {settings : Settings} {n : Node} (created : Node.create H settings = .ok n)
      (role : settings.aggregatorAuthority = true) : Polling H .empty n
  | acts {s : PeerSync} {n n' : Node} (polling : Polling H s n)
      (acts : n.Acts (fun c => c.folds = false) n') : Polling H s n'
  | poll {s : PeerSync} {n : Node} (polling : Polling H s n) (now : UInt64) (index : UInt32)
      (peer : Option Node) :
      Polling H (s.syncRollup n now index peer).2.1 (s.syncRollup n now index peer).2.2

namespace Polling

variable {H : NodeHasher} {s : PeerSync} {n : Node}

/-! ### At any time -/

/-- What all that a node does keeps holds at any time. -/
theorem invariant {P : Node → Prop} (polling : Polling H s n)
    (start : ∀ {settings n}, Node.create H settings = .ok n →
      settings.aggregatorAuthority = true → P n)
    (acts : ∀ {rule n n'}, Node.Acts rule n n' → P n → P n') : P n := by
  induction polling with
  | start created role => exact start created role
  | acts _ acted ih => exact acts acted ih
  | @poll s n _ now index peer ih => exact acts (n.acts_syncRollup s now index peer) ih

theorem hasher (polling : Polling H s n) : n.deployment.hasher = H :=
  polling.invariant (fun created _ => (Node.create_eq_ok created).1)
    fun acted same => (congrArg Deployment.hasher acted.exists_chain.1).trans same

theorem isAuthority (polling : Polling H s n) : n.ledger.roots.isAuthority = true := by
  refine polling.invariant (P := fun n => n.ledger.roots.isAuthority = true) ?_
    fun acted same => acted.isAuthority.trans same
  intro settings n created role
  obtain ⟨-, genesis, -⟩ := Node.create_eq_ok created
  rw [genesis, Deployment.genesis, Node.isAuthority_ledgerConfig, role]
  rfl

theorem exists_authority (polling : Polling H s n) : ∃ a, n.ledger.roots = .authority a := by
  have role := polling.isAuthority
  cases roots : n.ledger.roots with
  | authority a => exact ⟨a, rfl⟩
  | replica r =>
    rw [roots] at role
    cases role

theorem consistent (polling : Polling H s n) : n.ledger.roots.view.Consistent H := by
  obtain ⟨past, session⟩ := polling.invariant
    (P := fun n => ∃ past, Session n.deployment Book.Handled past n.bridge)
    (fun created _ => ⟨[], .start (Node.deployed_of_create created).1⟩)
    fun acted ⟨past, session⟩ => acted.session session
  obtain ⟨leaves, points⟩ := session.points
  exact polling.hasher ▸ points.consistent

/-- The path of a stored root leads to the rollups' exit root. -/
theorem exists_rollupPath {a : RootAuthority} (polling : Polling H s n)
    (authority : n.ledger.roots = .authority a) (index : UInt32)
    (inUse : index.toNat < a.rollups.size) :
    ∃ path, n.ledger.rollupPath n.deployment index = .ok path ∧
      path.verify H index (a.rollups.rootAt index.toNat) a.rollupExitRoot = true := by
  have consistent := polling.consistent
  rw [authority] at consistent
  obtain ⟨path, hpath, leads⟩ := RollupRoots.exists_path (H := H) (a.rollups.get?_of_lt inUse)
  refine ⟨path, ?_, ?_⟩
  · rw [Ledger.rollupPath, authority, polling.hasher]
    exact hpath
  · rw [InclusionPath.verify, leads, beq_iff_eq]
    exact consistent.symm

/-- What the authority remembers is what its ledger has stored. -/
theorem tracks (polling : Polling H s n) : s.Tracks n := by
  induction polling with
  | start created =>
    obtain ⟨-, genesis, -⟩ := Node.create_eq_ok created
    intro index
    rw [genesis, Deployment.genesis, RootStore.view_ofRole]
    simp [PeerSync.empty, RollupRoots.rootAt, RollupRoots.empty]
  | acts _ acted ih => exact ih.of_rollups acted.rollups
  | @poll s n _ now index peer ih => exact (s.polled n now index peer).tracks ih

/-! ### Rounds -/

theorem noted {n' : Node} (polling : Polling H s n) (same : n.Same n')
    (syncCursor : n'.syncCursor = n.syncCursor) : Polling H s n' :=
  polling.acts (.noted same syncCursor)

theorem ingest {n' : Node} {batch : EventBatch} {result : Except LedgerError Nat}
    (ingested : n.ingest batch = (result, n')) (polling : Polling H s n) : Polling H s n' := by
  have acts : n.Acts (fun c => c.folds = false) (n.ingest batch).2 :=
    .operation (c := .ingest batch) rfl
  rw [ingested] at acts
  exact polling.acts acts

theorem drain (authority : Node) (known : Nat) (polling : Polling H s n) :
    Polling H s (Node.drain authority n known).2 := by
  fun_induction Node.drain authority n known with
  | case1 => exact polling
  | case2 n known batch served e after ingested => exact polling.ingest ingested
  | case3 n known batch served imported after ingested few => exact polling.ingest ingested
  | case4 n known batch served imported after ingested full _ ih =>
    exact ih (polling.ingest ingested)

theorem pollAuthority (authority : Option Node) (polling : Polling H s n) :
    Polling H s (PeerSync.pollAuthority n authority) := by
  unfold PeerSync.pollAuthority
  split
  · exact polling
  · have synced : Polling H s (n.syncEvents authority).2 := by
      cases authority with
      | none => exact polling
      | some authority => exact polling.drain authority 0
    generalize n.syncEvents authority = answer at synced ⊢
    obtain ⟨refused | count, n'⟩ := answer
    · exact synced.noted ⟨rfl, rfl⟩ rfl
    · exact synced.noted ⟨rfl, rfl⟩ rfl

theorem pollRollup (now : UInt64) (peers : String → Option Node) (peer : RollupPeer)
    (polling : Polling H s n) : Polling H (PeerSync.pollRollup now peers (s, n) peer).1
      (PeerSync.pollRollup now peers (s, n) peer).2 := by
  have polled := polling.poll now peer.rollupIndex (peers peer.url)
  unfold PeerSync.pollRollup
  generalize s.syncRollup n now peer.rollupIndex (peers peer.url) = answer at polled ⊢
  obtain ⟨refused | told, s', n'⟩ := answer
  · exact polled.noted ⟨rfl, rfl⟩ rfl
  · exact polled

/-- **A round of the node** over all its peers is made of polls, and nothing else folds. -/
theorem pollOnce (now : UInt64) (peers : String → Option Node) (polling : Polling H s n) :
    Polling H (s.pollOnce n now peers).1 (s.pollOnce n now peers).2 := by
  have rounds (rollups : List RollupPeer) (state : PeerSync × Node)
      (polling : Polling H state.1 state.2) :
      Polling H (rollups.foldl (PeerSync.pollRollup now peers) state).1
        (rollups.foldl (PeerSync.pollRollup now peers) state).2 := by
    induction rollups generalizing state with
    | nil => exact polling
    | cons peer rollups ih => exact ih _ (polling.pollRollup now peers peer)
  exact rounds _ _ (polling.pollAuthority _)

end Polling

/-- **Polls track the rollups' peers.** Whatever an authority that folds in nothing but what it
    polls has done before, and whatever its peers have. When the poll of a replica of the rollup's
    network succeeds, the root stored for the rollup is the one that the replica reports, the others
    are as they were, and the path of the stored root leads to the rollups' exit root; it was
    skipped only if that root was stored already. A peer of another network is refused, and nothing
    changes; nor do the stored roots by any other failure. -/
theorem rollup_polls_track_peers {H : NodeHasher} {s : PeerSync} {n : Node}
    (polling : Polling H s n) (now : UInt64) (index : UInt32) (peer : Node) :
    ∃ a a' result s' n', s.syncRollup n now index (some peer) = (result, s', n') ∧
      n.ledger.roots = .authority a ∧ n'.ledger.roots = .authority a' ∧
      (∀ r told, peer.ledger.roots = .replica r →
        peer.deployment.config.networkId.toNat = index.toNat + 1 → result = .ok told →
        a'.rollups.rootAt index.toNat = r.lastLocalExitRoot ∧
        (∀ i, i ≠ index.toNat → a'.rollups.rootAt i = a.rollups.rootAt i) ∧
        (index.toNat < a'.rollups.size → ∃ path,
          n'.ledger.rollupPath n'.deployment index = .ok path ∧
          path.verify H index r.lastLocalExitRoot a'.rollupExitRoot = true) ∧
        (told = none → a.rollups.rootAt index.toNat = r.lastLocalExitRoot ∧ s' = s ∧ n' = n)) ∧
      (peer.deployment.config.networkId.toNat ≠ index.toNat + 1 →
        (∃ e, result = .error e) ∧ s' = s ∧ n' = n) ∧
      ∀ e, result = .error e → s' = s ∧ n.Same n' := by
  have polled := s.polled n now index (some peer)
  have next := polling.poll now index (some peer)
  generalize s.syncRollup n now index (some peer) = answer at polled next
  obtain ⟨result, s', n'⟩ := answer
  obtain ⟨a, authority⟩ := polling.exists_authority
  obtain ⟨a', authority'⟩ := next.exists_authority
  refine ⟨a, a', result, s', n', rfl, authority, authority', ?_, ?_, ?_⟩
  · intro r told replica network hresult
    have reported : PeerSync.reportedRoot index (some peer) = .ok (some r.lastLocalExitRoot) := by
      rw [PeerSync.reportedRoot_of_network network, Ledger.lastLocalExitRoot?, replica]
    have proved := next.exists_rollupPath authority' index
    cases polled with
    | unread => cases hresult
    | failed => cases hresult
    | skipped read current =>
      cases read.symm.trans reported
      obtain rfl : a' = a := RootStore.authority.inj (authority'.symm.trans authority)
      have stored := polling.tracks.rootAt_of_isCurrent (current _ rfl)
      rw [authority] at stored
      exact ⟨stored, fun _ _ => rfl, stored ▸ proved, fun _ => ⟨stored, rfl, rfl⟩⟩
    | folded read set =>
      cases read.symm.trans reported
      have set : a.rollups.set index r.lastLocalExitRoot = .ok a'.rollups := by
        rw [authority, authority'] at set
        exact set
      have stored : a'.rollups.rootAt index.toNat = r.lastLocalExitRoot := by
        rw [RollupRoots.rootAt_set set, if_pos rfl]
      refine ⟨stored, fun i other => ?_, stored ▸ proved, ?_⟩
      · rw [RollupRoots.rootAt_set set, if_neg other]
      · rintro rfl
        cases hresult
  · intro network
    obtain ⟨e, refused⟩ := PeerSync.exists_reportedRoot_error network
    cases polled with
    | unread => exact ⟨⟨_, rfl⟩, rfl, rfl⟩
    | skipped read => cases read.symm.trans refused
    | failed read => cases read.symm.trans refused
    | folded read => cases read.symm.trans refused
  · rintro e rfl
    cases polled with
    | unread => exact ⟨rfl, .refl n⟩
    | failed _ _ same => exact ⟨rfl, same⟩

/-- Network 1 has published its exit root. Network 0 polls it, and has stored what it reports. -/
theorem rollup_polls_track_peers_first : ∃ (A R : Node) (r : RootReplica) (s : PeerSync) (n : Node)
    (told : Option Digest) (a : RootAuthority), Polling .keccak .empty A ∧
      R.ledger.roots = .replica r ∧ R.deployment.config.networkId = 1 ∧
      PeerSync.empty.syncRollup A 0 0 (some R) = (.ok told, s, n) ∧
      n.ledger.roots = .authority a ∧ a.rollups.rootAt 0 = r.lastLocalExitRoot := by
  let bridge : Address := ⟨List.replicate 20 0xb0, rfl⟩
  let settings : Settings :=
    { (default : Settings) with aggregatorAuthority := true, bridgeAddress := bridge }
  let settings' : Settings := { (default : Settings) with networkId := 1, bridgeAddress := bridge }
  obtain ⟨A, created⟩ := Node.exists_create .keccak (s := settings)
    (LedgerConfig.validate_authority 0 (by decide)) rfl
  obtain ⟨R₀, created'⟩ := Node.exists_create .keccak (s := settings')
    (LedgerConfig.validate_replica (by decide) (by decide)) rfl
  obtain ⟨-, genesis, -⟩ := Node.create_eq_ok created
  obtain ⟨-, genesis', -⟩ := Node.create_eq_ok created'
  obtain ⟨-, -, config, -⟩ := Deployment.create_eq_ok (Node.deployed_of_create created').1
  have acts : R₀.Acts (fun _ => True) ((NodeCall.updateGlobalExitRoot 0 true).run R₀) :=
    .operation trivial
  generalize (NodeCall.updateGlobalExitRoot 0 true).run R₀ = R at acts
  have network : R.deployment.config.networkId = 1 := by
    rw [acts.exists_chain.1, config]
    rfl
  have polling : Polling .keccak .empty A := .start created rfl
  obtain ⟨a, a', result, s, n, poll, authority, authority', tracked, -, -⟩ :=
    rollup_polls_track_peers polling 0 0 R
  cases role : R.ledger.roots with
  | authority =>
    have replica := acts.isAuthority
    rw [role, genesis'] at replica
    cases replica
  | replica r =>
    have next : R.deployment.config.networkId.toNat = (0 : UInt32).toNat + 1 := by
      rw [network]
      rfl
    have polled := PeerSync.polled .empty A 0 0 (some R)
    rw [poll] at polled
    -- the poll succeeds, since the rollup is tracked and the tree of an authority has room at first
    obtain ⟨told, rfl⟩ : ∃ told, result = .ok told := by
      cases polled with
      | unread refused => cases refused.symm.trans (PeerSync.reportedRoot_of_network next)
      | skipped => exact ⟨_, rfl⟩
      | @failed root _ _ _ refused =>
        obtain ⟨told, after, -, folds, -⟩ :=
          exists_updateRollupExitRoot (D := A.deployment) (s := A.bridge) (a := .empty) root
            (A.drawBlock 0).1 (congrArg Ledger.roots genesis) rfl
            (show (0 : UInt32).toNat < maxTrackedRollups by decide)
        have published := A.publish_eq 0 (updateRollupExitRoot A.deployment 0 root)
        rw [folds] at published
        cases refused.symm.trans published.1
      | folded => exact ⟨_, rfl⟩
    exact ⟨A, R, r, s, n, told, a', polling, role, network, poll, authority',
      (tracked r told role next rfl).1⟩

end ExitBridge
