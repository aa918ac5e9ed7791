/-
  Runs in which exit roots travel as they are meant to.

  Replicas learn global exit roots from pages of the authority's journal only, and the authority
  folds in for a rollup only what that rollup has published. Pages and roots may be old, and may
  come again or not at all.

  * `Follows`: the rule.
  * `Member.Fed`: all that a ledger knows of global exit roots was the authority's once, and all
    that it holds for rollups was published by them.
  * `Run.fed`: every ledger of such a run is fed so, at every moment.
  * `Run.first`: a rollup's first deposit and its way to the authority are such a run.
-/
import ExitBridge.Proofs.ExitRoot.Rollups
import ExitBridge.Proofs.Network.Invariant

namespace ExitBridge

/-! ## The rule -/

/-- A replica is handed pages of the authority's journal, as it is or once was, and no global exit
    root otherwise. The authority is handed, for a rollup, what that rollup's own last exit root is
    or once was. -/
def Follows (mainnet : UInt32) (states : List Federation) (n : UInt32) : Call → Prop
  | .importGlobalExitRoot _ _ => n = mainnet
  | .ingestPeerEvents batch => n = mainnet ∨ ∃ g ∈ states, ∃ A start limit, g mainnet = some A ∧
      A.ledger.journal.since start limit = .ok batch
  | .updateRollupExitRoot index root _ => n = mainnet → ∃ g ∈ states, ∃ id R,
      rollupNetworkId index = .ok id ∧ g id = some R ∧ R.ledger.lastLocalExitRoot? = some root
  | _ => True

theorem Journal.mem_of_since {j : Journal} {start limit : Nat} {batch : EventBatch} {event : Event}
    (h : j.since start limit = .ok batch) (hmem : event ∈ batch.entries.map (·.event)) :
    event ∈ j.events := by
  unfold since at h
  split at h
  · cases h
  · split at h
    · cases h
    · cases h
      obtain ⟨entry, hentry, rfl⟩ := List.mem_map.1 hmem
      obtain ⟨⟨event, cursor⟩, hpage, rfl⟩ := List.mem_map.1 hentry
      have kept := List.mem_of_mem_take (List.fst_mem_of_mem_zipIdx hpage)
      exact Array.mem_def.2 (List.mem_of_mem_drop kept)

/-! ## Where roots come from -/

/-- The authority has held these two halves at some moment. -/
def HeldIn (mainnet : UInt32) (states : List Federation) (p : GlobalExitRoot) : Prop :=
  ∃ g ∈ states, ∃ A, g mainnet = some A ∧ p ∈ A.ledger.core.roots.halves?

/-- A root that stands for a rollup: nothing, or what a replica of that number has published. -/
def ReportedBy {σ : Type} [ExecutionHost σ] (H : NodeHasher) (mainnet : UInt32)
    (past : List (Moment σ)) (index : Nat) (root : Digest) : Prop :=
  root = .zero ∨ ∃ (j id : UInt32), j.toNat = index ∧ rollupNetworkId j = .ok id ∧ id ≠ mainnet ∧
    PublishedFrom H (leavesOf H past id) root

/-- Every global exit root that the ledger knows or tells of was held by the authority, and every
    root that it holds for a rollup was reported. -/
structure Member.Fed (H : NodeHasher) (held : GlobalExitRoot → Prop)
    (reported : Nat → Digest → Prop) (M : Member) : Prop where
  known : ∀ d, M.ledger.roots.isKnown d = true → ∃ p, held p ∧ d = p.hash H
  told : ∀ p, M.ledger.journal.Tells p → held p
  reported : ∀ index, reported index (M.ledger.core.roots.rollups.rootAt index)

section Step

variable {H : NodeHasher} {held held' : GlobalExitRoot → Prop}
  {reported reported' : Nat → Digest → Prop} {M : Member} {l' : Ledger}

theorem Member.Fed.mono (h : M.Fed H held reported) (le : ∀ p, held p → held' p)
    (le' : ∀ index root, reported index root → reported' index root) : M.Fed H held' reported' where
  known d hd := by
    obtain ⟨p, hp, hash⟩ := h.known d hd
    exact ⟨p, le p hp, hash⟩
  told p hp := le p (h.told p hp)
  reported index := le' index _ (h.reported index)

/-- What has been learned was held, and the rollups' roots are the same or reported. -/
theorem Member.Fed.of_learns {news : GlobalExitRoot → Prop} (h : M.Fed H held reported)
    (learns : M.ledger.Learns H news l') (le : ∀ p, news p → held p)
    (rollups : ∀ index, reported index (l'.core.roots.rollups.rootAt index)) :
    Member.Fed H held reported ⟨M.deployment, l'⟩ where
  known d hd := by
    rcases learns.isKnown d hd with old | ⟨p, hp, hash⟩
    · exact h.known d old
    · exact ⟨p, le p hp, hash⟩
  told p hp := (learns.tells p hp).elim (h.told p) (le p)
  reported := rollups

/-- One call that succeeds, when what it is handed was held or reported. -/
theorem Member.Fed.of_advance {σ : Type} [ExecutionHost σ] {host : σ} {call : Call}
    {answer : Answer} (h : M.Fed M.deployment.hasher held reported)
    (advance : Advance M.deployment ⟨M.ledger, host⟩ call answer l')
    (current : ∀ p ∈ l'.core.roots.halves?, held p)
    (taught : ∀ p, call.Teaches p → M.ledger.roots.isAuthority = false → held p)
    (folded : ∀ index root block, call = .updateRollupExitRoot index root block →
      M.ledger.roots.isAuthority = true → reported index.toNat root) :
    Member.Fed M.deployment.hasher held reported ⟨M.deployment, l'⟩ := by
  cases advance with
  | deposit event deposited =>
    refine h.of_learns deposited.learns current fun index => ?_
    rw [deposited.core]
    split
    · exact h.reported index
    · exact h.reported index
  | claim verified marked =>
    refine h.of_learns marked.learns current fun index => ?_
    rw [marked.core]
    exact h.reported index
  | publish core learns hash =>
    refine h.of_learns learns current fun index => ?_
    rw [core]
    exact h.reported index
  | fold authority set core learns =>
    refine h.of_learns learns current fun index => ?_
    rw [core]
    simp only [RollupRoots.rootAt_set set]
    split
    · rename_i same
      rw [same]
      exact folded _ _ _ rfl authority
    · exact h.reported index
  | learn silent replica core learns =>
    refine h.of_learns learns (fun p hp => taught p hp (replica p hp)) fun index => ?_
    rw [core]
    exact h.reported index
  | toggle silent core learns =>
    refine h.of_learns learns nofun fun index => ?_
    rw [core]
    exact h.reported index

end Step

/-! ## Runs -/

section Run

variable {σ : Type} [ExecutionHost σ] {H : NodeHasher} {mainnet n : UInt32}
  {past earlier : List (Moment σ)} {f g : Federation} {M : Member}

theorem HeldIn.mono {states states' : List Federation} {p : GlobalExitRoot}
    (h : HeldIn mainnet states p) (le : ∀ g ∈ states, g ∈ states') : HeldIn mainnet states' p := by
  obtain ⟨g, hg, hheld⟩ := h
  exact ⟨g, le g hg, hheld⟩

theorem ReportedBy.mono {index : Nat} {root : Digest}
    (h : ReportedBy H mainnet earlier index root) (le : earlier <+: past) :
    ReportedBy H mainnet past index root := by
  rcases h with zero | ⟨j, id, hj, hid, other, published⟩
  · exact .inl zero
  · exact .inr ⟨j, id, hj, hid, other, published.mono (leavesOf_mono H le id)⟩

theorem Member.fed_of_genesis (h : f.Genesis σ H mainnet) (hM : f n = some M)
    (held : GlobalExitRoot → Prop) :
    M.Fed H held (ReportedBy H mainnet ([] : List (Moment σ))) := by
  obtain ⟨config, derivation, before, after, -, -, hcreate⟩ := h n M hM
  have hledger : M.ledger = Deployment.genesis config := (Deployment.create_eq_ok hcreate).2.2.2
  refine ⟨fun d hd => ?_, fun p hp => ?_, fun index => ?_⟩
  · rw [hledger, Deployment.genesis, RootStore.isKnown_ofRole] at hd
    cases hd
  · obtain ⟨e, hmem, -⟩ := hp
    rw [hledger] at hmem
    exact absurd hmem (Array.not_mem_empty _)
  · left
    rw [hledger, Ledger.core, Deployment.genesis, RootStore.view_ofRole]
    rfl

/-- A call that keeps to the rule teaches a replica what the authority's journal tells of. -/
theorem Follows.taught {states : List Federation} {call : Call} {p : GlobalExitRoot}
    (allowed : Follows mainnet states n call) (other : n ≠ mainnet) (teaches : call.Teaches p) :
    ∃ g ∈ states, ∃ A, g mainnet = some A ∧ A.ledger.journal.Tells p := by
  cases call with
  | importGlobalExitRoot roots timestamp => exact absurd allowed other
  | ingestPeerEvents batch =>
    obtain ⟨e, hmem, rfl⟩ := teaches
    obtain same | ⟨g, hg, A, start, limit, hA, hsince⟩ := allowed
    · exact absurd same other
    · exact ⟨g, hg, A, hA, e, Journal.mem_of_since hsince hmem, rfl⟩
  | _ => exact teaches.elim

theorem Run.reported {rule : List Federation → UInt32 → Call → Prop}
    (h : Run H mainnet rule past f) (hg : g ∈ statesOf past f) {j id : UInt32} {R : Member}
    {root : Digest} (hid : rollupNetworkId j = .ok id) (hR : g id = some R)
    (hroot : R.ledger.lastLocalExitRoot? = some root) : ReportedBy H mainnet past j.toNat root := by
  obtain ⟨earlier, hprefix, run, -⟩ := h.of_mem_statesOf hg
  have member := run.invariant hR
  have role := member.isAuthority_roots
  have published := member.ownRoot
  cases hroots : R.ledger.roots with
  | authority a =>
    rw [Ledger.lastLocalExitRoot?, hroots] at hroot
    cases hroot
  | replica r =>
    rw [Ledger.lastLocalExitRoot?, hroots] at hroot
    cases hroot
    rw [hroots] at role
    rw [Ledger.core, hroots] at published
    exact .inr ⟨j, id, rfl, hid, beq_eq_false_iff_ne.1 role.symm,
      published.mono (leavesOf_mono H hprefix id)⟩

/-- One call that keeps to the rule leaves its ledger fed, if all ledgers were. -/
theorem Run.fed_after {m : Moment σ} (run : Run H mainnet (Follows mainnet) past m.before)
    (called : m.before m.network = some m.member)
    (allowed : Follows mainnet (statesOf past m.before) m.network m.call)
    (earlier : ∀ {g n M}, g ∈ statesOf past m.before → g n = some M →
      M.Fed H (HeldIn mainnet (statesOf (past ++ [m]) m.result))
        (ReportedBy H mainnet (past ++ [m]))) :
    Member.Fed H (HeldIn mainnet (statesOf (past ++ [m]) m.result))
      (ReportedBy H mainnet (past ++ [m])) ⟨m.member.deployment, m.after⟩ := by
  have member := earlier (mem_statesOf_self _ _) called
  obtain ⟨answer, -, advance⟩ | ⟨e, -, hafter⟩ := m.advance_or_same
  · have before := run.invariant called
    have after := (m.invariant before).isAuthority
    have role := before.isAuthority_roots
    obtain rfl := before.hasher
    refine member.of_advance advance (fun p hp => ?_) (fun p teaches replica => ?_)
      fun index root block hcall authority => ?_
    · refine ⟨m.result, mem_statesOf_self _ _, ⟨m.member.deployment, m.after⟩, ?_, hp⟩
      -- only the authority holds two halves
      rw [RootView.halves?] at hp
      split at hp
      · rename_i authority
        rw [after, beq_iff_eq] at authority
        rw [Moment.result, if_pos authority.symm]
      · cases hp
    · have other : m.network ≠ mainnet := by simpa [replica] using role
      obtain ⟨g, hg, A, hA, htells⟩ := allowed.taught other teaches
      exact (earlier hg hA).told p htells
    · have same : m.network = mainnet := by simpa [authority] using role
      rw [hcall] at allowed
      obtain ⟨g, hg, id, R, hid, hR, hroot⟩ := allowed same
      exact (run.reported hg hid hR hroot).mono (List.prefix_append _ _)
  · rw [hafter]
    exact member

/-- **Every ledger of a run that follows the rule** is fed from the authority and the rollups, at
    every moment. -/
theorem Run.fed (h : Run H mainnet (Follows mainnet) past f) (hg : g ∈ statesOf past f)
    (hM : g n = some M) :
    M.Fed H (HeldIn mainnet (statesOf past f)) (ReportedBy H mainnet past) := by
  induction h generalizing g n M with
  | start genesis =>
    obtain rfl : g = _ := by simpa [statesOf] using hg
    exact Member.fed_of_genesis genesis hM _
  | step m run called allowed ih =>
    rename_i past
    have earlier {g : Federation} {n : UInt32} {M : Member} (hg : g ∈ statesOf past m.before)
        (hM : g n = some M) : M.Fed H (HeldIn mainnet (statesOf (past ++ [m]) m.result))
          (ReportedBy H mainnet (past ++ [m])) :=
      (ih hg hM).mono (fun p hp => hp.mono fun s hs => mem_statesOf_snoc.2 (.inl hs))
        fun _ _ hroot => hroot.mono (List.prefix_append _ _)
    rcases mem_statesOf_snoc.1 hg with old | rfl
    · exact earlier old hM
    · rw [Moment.result] at hM
      by_cases hn : n = m.network
      · rw [if_pos hn] at hM
        cases hM
        exact run.fed_after called allowed earlier
      · rw [if_neg hn] at hM
        exact earlier (mem_statesOf_self _ _) hM

end Run

/-! ## A first deposit -/

section First

variable {σ : Type} [ExecutionHost σ] (H : NodeHasher) (host : σ)

/-- The ledgers before the first deposit; network 0 is the mainnet. -/
def Member.first (n : UInt32) : Member :=
  .fresh H 0 LedgerConfig.standard.bridgeAddress (.create2 H) n

/-- Network 1 takes an empty message for network 0, and publishes it. -/
def Moment.firstMessage : Moment σ where
  before n := some (.first H n)
  network := 1
  member := .first H 1
  host := host
  call := .bridgeMessage .zero ⟨0, .zero, 0, true, []⟩ default

/-- Network 0 folds that in. -/
def Moment.firstFold : Moment σ where
  before := (firstMessage H host).result
  network := 0
  member := .first H 0
  host := host
  call := .updateRollupExitRoot 0 ((firstMessage H host).after.tree.root H) default

theorem Run.first : Run H 0 (Follows 0) [.firstMessage H host, .firstFold H host]
    (Moment.firstFold H host).result := by
  have genesis := Federation.genesis_fresh H 0 (.create2 H) host
    (show LedgerConfig.standard.bridgeAddress ≠ .zero by decide)
  have sent : Run H 0 (Follows 0) [.firstMessage H host] (Moment.firstMessage H host).result :=
    .step (Moment.firstMessage H host) (.start genesis) rfl trivial
  refine .step (Moment.firstFold H host) sent rfl fun _ => ?_
  exact ⟨(Moment.firstMessage H host).result, mem_statesOf_self _ _, 1, _, rfl, rfl, rfl⟩

/-- After that, network 0 holds the root that network 1 has published, and knows the global exit root
    that it makes. -/
theorem Moment.exists_firstFold : ∃ a, (firstFold H host).after.roots = .authority a ∧
    a.rollups.get? 0 = some ((firstMessage H host).after.tree.root H) ∧
    a.isKnown (GlobalExitRoot.hash H ⟨a.mainnetExitRoot, a.rollupExitRoot⟩) = true ∧
    (firstFold H host).after.emergency = false := by
  obtain ⟨told, s', a, hrun, hroots, stored, known, emergency⟩ :=
    exists_updateRollupExitRoot (D := (Member.first H 0).deployment)
      (s := ⟨(Member.first H 0).ledger, host⟩) (a := .empty)
      ((firstMessage H host).after.tree.root H) default rfl rfl
      (show (0 : UInt32).toNat < maxTrackedRollups by decide)
  have run : (firstFold H host).call.run (firstFold H host).member.deployment
      ⟨(firstFold H host).member.ledger, (firstFold H host).host⟩ =
      .ok (.published (some told)) s' := LedgerM.map_eq_ok.2 ⟨told, hrun, rfl⟩
  have after : (firstFold H host).after = s'.ledger := by rw [Moment.after, run]
  rw [after]
  exact ⟨a, hroots, stored, known, emergency⟩

end First

end ExitBridge
