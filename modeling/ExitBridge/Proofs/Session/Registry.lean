/-
  The registry, the L1 info tree and the journal of an authority agree.

  A deposit that asks for it, an update of the exit root, and a rollup's new root all publish a
  global exit root. Whichever does so first announces it: in the tree, in the registry and in the
  journal.

  * `Move.announcement?`, `Ledger.Chain.records`, `Ledger.Chain.updates`: what moves announce.
  * `FirstPublishedIn`: the block of the call that has first published a global exit root.
  * `Chronicle`: the announcements of a session so far.
  * `registry_agrees`: over all sessions.
-/
import ExitBridge.Execution.Host
import ExitBridge.Proofs.ExitRoot.Announce
import ExitBridge.Proofs.Network.Feed
import ExitBridge.Proofs.Network.Session

namespace ExitBridge

/-! ## Updates in the journal -/

/-- The update of the L1 info tree that an event tells of. -/
def Event.update? : Event → Option L1InfoTreeUpdate
  | updateL1InfoTree e => some e
  | _ => none

/-- The updates of the L1 info tree that a journal tells of, oldest first. -/
def Journal.updates (j : Journal) : List L1InfoTreeUpdate :=
  j.events.toList.filterMap Event.update?

theorem PublishOutcome.filterMap_event? (o : PublishOutcome) (block : BlockContext) :
    (o.event? block).toList.filterMap Event.update? =
      ((o.announcement? block).map (·.update)).toList := by
  rw [event?_eq]
  cases o.announcement? block <;> rfl

/-! ## Moves -/

namespace Move

/-- The publication that a move makes. -/
def publication? : Move → Option (BlockContext × PublishOutcome)
  | publish block outcome? => outcome?.map (block, ·)
  | fold _ _ block outcome => some (block, outcome)
  | _ => none

/-- The announcement that a move makes. -/
def announcement? (m : Move) : Option Announcement :=
  m.publication?.bind fun p => p.2.announcement? p.1

/-- The global exit root that is known after a move. -/
def teaches? (H : NodeHasher) : Move → Option Digest
  | learn roots _ => some (roots.hash H)
  | m => m.publication?.map (·.2.globalExitRoot)

theorem updates_events (m : Move) :
    m.events.filterMap Event.update? = (m.announcement?.map (·.update)).toList := by
  cases m with
  | publish block outcome? =>
    cases outcome? with
    | none => rfl
    | some outcome => exact outcome.filterMap_event? block
  | fold index root block outcome => exact outcome.filterMap_event? block
  | toggle emergency => cases emergency <;> rfl
  | _ => rfl

end Move

namespace Ledger.Moves

variable {D : Deployment} {l l' : Ledger} {m : Move}

/-- A move makes a publication in the store, teaches a replica, or leaves the store as it is. -/
theorem roots_cases (h : l.Moves D m l') :
    (∃ block outcome?, m.announcement? = outcome?.bind (·.announcement? block) ∧
        m.teaches? D.hasher = outcome?.map (·.globalExitRoot) ∧
        l.roots.Announces D.hasher block outcome? l'.roots) ∨
      (∃ r roots timestamp, m = .learn roots timestamp ∧ l.roots = .replica r ∧
        l'.roots = .replica (r.learn (roots.hash D.hasher) timestamp).2) ∨
      m.announcement? = none ∧ m.teaches? D.hasher = none ∧ l'.roots = l.roots := by
  cases h with
  | @publish block outcome? roots recorded =>
    refine .inl ⟨block, outcome?, ?_, ?_, RootStore.recordLocal_announces recorded⟩
    · cases outcome? <;> rfl
    · cases outcome? <;> rfl
  | @fold a a' index root block outcome authority updated =>
    refine .inl ⟨block, some outcome, rfl, rfl, ?_⟩
    rw [authority]
    exact .authority (RootAuthority.updateRollup_announces updated)
  | @learn r roots timestamp replica =>
    exact .inr (.inl ⟨r, roots, timestamp, rfl, replica, rfl⟩)
  | _ => exact .inr (.inr ⟨rfl, rfl, rfl⟩)

theorem records {news : List Announcement} (h : l.Moves D m l')
    (records : l.roots.Records D.hasher news) :
    l'.roots.Records D.hasher (news ++ m.announcement?.toList) := by
  rcases h.roots_cases with ⟨block, outcome?, told, -, announces⟩ |
    ⟨r, roots, timestamp, rfl, before, after⟩ | ⟨silent, -, same⟩
  · rw [told]
    exact announces.records records
  · rw [before] at records
    rw [after]
    exact (List.append_nil news).trans records
  · rw [silent, same, Option.toList_none, List.append_nil]
    exact records

theorem isKnown (h : l.Moves D m l') (d : Digest) :
    l'.roots.isKnown d = true ↔ l.roots.isKnown d = true ∨ m.teaches? D.hasher = some d := by
  rcases h.roots_cases with ⟨block, outcome?, -, taught, announces⟩ |
    ⟨r, roots, timestamp, rfl, before, after⟩ | ⟨-, silent, same⟩
  · rw [taught]
    exact announces.isKnown d
  · rw [before, after, RootStore.isKnown, RootReplica.isKnown_learn, Move.teaches?,
      Option.some.injEq, @eq_comm _ d]
    rfl
  · simp [silent, same]

theorem record?_eq_some (h : l.Moves D m l') {d : Digest} {record : GlobalExitRootRecord}
    (old : l.roots.record? d = some record) : l'.roots.record? d = some record := by
  rcases h.roots_cases with ⟨block, outcome?, -, -, announces⟩ |
    ⟨r, roots, timestamp, -, before, -⟩ | ⟨-, -, same⟩
  · exact announces.record?_eq_some old
  · rw [before] at old
    cases old
  · rwa [same]

theorem fresh (h : l.Moves D m l') {n : Announcement} (hn : m.announcement? = some n) :
    l.roots.isKnown n.update.globalExitRoot = false := by
  rcases h.roots_cases with ⟨block, outcome?, told, -, announces⟩ |
    ⟨r, roots, timestamp, rfl, -, -⟩ | ⟨silent, -, -⟩
  · exact announces.fresh (told.symm.trans hn)
  · cases hn
  · rw [silent] at hn
    cases hn

end Ledger.Moves

namespace Ledger.Chain

variable {D : Deployment} {l l' : Ledger} {moves : List Move}

theorem records {news : List Announcement} (h : l.Chain D moves l')
    (records : l.roots.Records D.hasher news) :
    l'.roots.Records D.hasher (news ++ moves.filterMap Move.announcement?) := by
  rw [List.filterMap_eq_flatMap_toList]
  induction h generalizing news with
  | nil => simpa using records
  | cons first _ ih =>
    rw [List.flatMap_cons, ← List.append_assoc]
    exact ih (first.records records)

/-- A journal that keeps all events tells of what was announced, in turn. -/
theorem updates (h : l.Chain D moves l') (unbounded : l.journal.retention = none) :
    l'.journal.updates =
      l.journal.updates ++ (moves.filterMap Move.announcement?).map (·.update) := by
  rw [List.map_filterMap]
  exact h.filterMap_events unbounded Move.updates_events

theorem isKnown (h : l.Chain D moves l') (d : Digest) : l'.roots.isKnown d = true ↔
    l.roots.isKnown d = true ∨ ∃ m ∈ moves, m.teaches? D.hasher = some d :=
  h.collects fun moved => moved.isKnown d

theorem fresh (h : l.Chain D moves l') {n : Announcement}
    (hn : n ∈ moves.filterMap Move.announcement?) :
    l.roots.isKnown n.update.globalExitRoot = false := by
  induction h with
  | nil => cases hn
  | cons first _ ih =>
    rw [List.filterMap_eq_flatMap_toList, List.flatMap_cons, List.mem_append, Option.mem_toList,
      ← List.filterMap_eq_flatMap_toList] at hn
    rcases hn with now | later
    · exact first.fresh now
    · -- what was known before would still be known
      refine Bool.eq_false_iff.2 fun known => ?_
      exact Bool.eq_false_iff.1 (ih later) ((first.isKnown _).2 (.inl known))

end Ledger.Chain

/-! ## Calls -/

theorem Move.teaches?_of_publication? {H : NodeHasher} {m : Move} {p : BlockContext × PublishOutcome}
    (h : m.publication? = some p) : m.teaches? H = some p.2.globalExitRoot := by
  cases m with
  | learn => cases h
  | _ => exact congrArg (Option.map (·.2.globalExitRoot)) h

section

variable {σ : Type} [ExecutionHost σ] {D : Deployment} {s : BridgeState σ} {host : σ}
  {call : Call} {answer : Answer} {moves : List Move}

/-- A call makes one publication in its block, and its answer tells of the global exit root, or it
    makes none. -/
theorem Call.Makes.publication (h : call.Makes D s answer moves host) :
    (∃ block o, moves.filterMap Move.publication? = [(block, o)] ∧ call.block? = some block ∧
        answer.globalExitRoot? = some o.globalExitRoot) ∨
      moves.filterMap Move.publication? = [] ∧ answer.globalExitRoot? = none := by
  cases h with
  | deposit _ _ told => exact .inr ⟨rfl, told⟩
  | @depositPublished _ _ _ _ block outcome? _ _ dated told =>
    cases outcome? with
    | none => exact .inr ⟨rfl, told⟩
    | some o => exact .inl ⟨block, o, rfl, dated, told⟩
  | @claim kind c receipt key host honours =>
    refine .inr ⟨?_, rfl⟩
    rw [Claim.moves, List.filterMap_append]
    cases receipt.newWrappedToken <;> rfl
  | @publish block outcome? =>
    cases outcome? with
    | none => exact .inr ⟨rfl, rfl⟩
    | some o => exact .inl ⟨block, o, rfl, rfl, rfl⟩
  | fold => exact .inl ⟨_, _, rfl, rfl, rfl⟩
  | ingest => exact .inr ⟨Move.filterMap_lessons (fun _ _ => rfl) _, rfl⟩
  | _ => exact .inr ⟨rfl, rfl⟩

end

/-! ## Steps -/

variable {σ : Type} [ExecutionHost σ] {D : Deployment} {handled : σ → σ → Prop}
  {past : List (Step σ)} {now : BridgeState σ} {news : List Announcement}

/-- The global exit root that was published. -/
def Step.published? (D : Deployment) (m : Step σ) : Option Digest :=
  match m.answer D with
  | .ok answer => answer.globalExitRoot?
  | .error _ => none

/-- The first step that published a global exit root was a call in this block. -/
def FirstPublishedIn (D : Deployment) (past : List (Step σ)) (d : Digest) (block : BlockContext) :
    Prop :=
  ∃ m, past.find? (fun m => m.published? D = some d) = some m ∧ m.call.block? = some block

/-- The moves of a step announce what it publishes, in its block; what it publishes is known
    afterwards. -/
theorem Step.exists_announcing (D : Deployment) (m : Step σ) :
    ∃ moves, m.before.ledger.Chain D moves (m.after D).ledger ∧
      (∀ n ∈ moves.filterMap Move.announcement?,
        m.published? D = some n.update.globalExitRoot ∧ m.call.block? = some n.block) ∧
      ∀ d, m.published? D = some d → ∃ move ∈ moves, move.teaches? D.hasher = some d := by
  obtain ⟨moves, chain, step⟩ := m.exists_chain D
  have publication : (∃ block o, moves.filterMap Move.publication? = [(block, o)] ∧
        m.call.block? = some block ∧ m.published? D = some o.globalExitRoot) ∨
      moves.filterMap Move.publication? = [] ∧ m.published? D = none := by
    rcases step with ⟨answer, answered, makes⟩ | ⟨⟨e, refused⟩, rfl⟩
    · rw [Step.published?, answered]
      exact makes.publication
    · exact .inr ⟨rfl, by rw [Step.published?, refused]⟩
  refine ⟨moves, chain, fun n hn => ?_, fun d hd => ?_⟩
  · obtain ⟨move, hmove, hn⟩ := List.mem_filterMap.1 hn
    obtain ⟨p, hp, told⟩ := Option.bind_eq_some_iff.1 hn
    have made : p ∈ moves.filterMap Move.publication? := List.mem_filterMap.2 ⟨move, hmove, hp⟩
    rcases publication with ⟨block, o, only, dated, published⟩ | ⟨none, -⟩
    · rw [only] at made
      obtain rfl := List.mem_singleton.1 made
      obtain ⟨hblock, hroot⟩ := PublishOutcome.of_announcement? told
      exact ⟨hroot ▸ published, hblock ▸ dated⟩
    · rw [none] at made
      cases made
  · rcases publication with ⟨block, o, only, -, published⟩ | ⟨-, none⟩
    · have made : (block, o) ∈ moves.filterMap Move.publication? := by
        rw [only]
        exact List.mem_singleton_self _
      obtain ⟨move, hmove, hp⟩ := List.mem_filterMap.1 made
      exact ⟨move, hmove, (Move.teaches?_of_publication? hp).trans (published.symm.trans hd)⟩
    · rw [none] at hd
      cases hd

/-! ## Sessions -/

/-- The announcements of a session so far: the store has recorded them, a journal that keeps all
    events tells of them, each was made when its global exit root was first published, and
    everything that was published is known. -/
structure Chronicle (D : Deployment) (past : List (Step σ)) (l : Ledger)
    (news : List Announcement) : Prop where
  records : l.roots.Records D.hasher news
  updates : l.journal.retention = none → l.journal.updates = news.map (·.update)
  first : ∀ n ∈ news, FirstPublishedIn D past n.update.globalExitRoot n.block
  published : ∀ m ∈ past, ∀ d, m.published? D = some d → l.roots.isKnown d = true

theorem Step.exists_chronicle {m : Step σ} (h : Chronicle D past m.before.ledger news) :
    ∃ more, Chronicle D (past ++ [m]) (m.after D).ledger (news ++ more) := by
  obtain ⟨moves, chain, announced, taught⟩ := m.exists_announcing D
  refine ⟨moves.filterMap Move.announcement?, chain.records h.records, fun unbounded => ?_,
    fun n hn => ?_, fun m₀ hm₀ d hd => ?_⟩
  · have before := chain.retention.symm.trans unbounded
    rw [chain.updates before, h.updates before, List.map_append]
  · rcases List.mem_append.1 hn with old | new
    · obtain ⟨m₀, hfind, dated⟩ := h.first n old
      refine ⟨m₀, ?_, dated⟩
      rw [List.find?_append, hfind, Option.some_or]
    · obtain ⟨published, dated⟩ := announced n new
      -- an earlier publication would have made it known
      have unpublished : past.find? (fun m => m.published? D = some n.update.globalExitRoot) =
          none := by
        rw [List.find?_eq_none]
        intro m₀ hm₀ earlier
        have known := h.published m₀ hm₀ _ (of_decide_eq_true earlier)
        rw [chain.fresh new] at known
        cases known
      refine ⟨m, ?_, dated⟩
      rw [List.find?_append, unpublished, Option.none_or]
      simp [published]
  · rw [chain.isKnown]
    rcases List.mem_append.1 hm₀ with old | new
    · exact .inl (h.published m₀ old d hd)
    · obtain rfl := List.mem_singleton.1 new
      exact .inr (taught d hd)

theorem Session.exists_chronicle (session : Session D handled past now) :
    ∃ news, Chronicle D past now.ledger news := by
  induction session with
  | start created =>
    rw [genesis_of_create created]
    refine ⟨[], RootStore.records_ofRole _ _, fun _ => rfl, ?_, ?_⟩
    · intro n hn
      cases hn
    · intro m hm
      cases hm
  | call _ ih =>
    obtain ⟨news, chronicle⟩ := ih
    obtain ⟨more, chronicle⟩ := Step.exists_chronicle chronicle
    exact ⟨news ++ more, chronicle⟩
  | host _ _ ih => exact ih

/-- **Registry, L1 info tree and journal agree.** At any time of a session of the authority, whose
    journal keeps all events: as many global exit roots are known as the tree has leaves and as the
    journal tells of updates. The update at each index tells of the hash of its two exit roots, of
    its index and of the root of the tree with the leaves so far; its leaf (the hash of the global
    exit root, the block hash and the timestamp) and its record are those of the call that was the
    first to publish it; and the tree has a path that proves the leaf. Any record stays as it is. -/
theorem registry_agrees (session : Session D handled past now)
    (unbounded : D.config.journalRetention = none) {a : RootAuthority}
    (authority : now.ledger.roots = .authority a) :
    let leafOf (n : Announcement) : Digest :=
      D.hasher.hash (n.update.globalExitRoot.toList ++ n.block.blockHash.toList ++
        bigEndian 8 n.block.timestamp.toNat)
    ∃ news : List Announcement,
      now.ledger.journal.updates = news.map (·.update) ∧
      a.knownCount = now.ledger.journal.updates.length ∧
      a.l1InfoTree.count = now.ledger.journal.updates.length ∧
      (∀ d, a.isKnown d = true ↔ ∃ n ∈ news, n.update.globalExitRoot = d) ∧
      (∀ (k : Nat) (n : Announcement), news[k]? = some n →
        n.update.l1InfoIndex.toNat = k ∧
        n.update.globalExitRoot =
          D.hasher.hash (n.update.mainnetExitRoot.toList ++ n.update.rollupExitRoot.toList) ∧
        n.update.l1InfoRoot = plainRoot D.hasher ((news.take (k + 1)).map leafOf) ∧
        n.update.timestamp = n.block.timestamp ∧
        FirstPublishedIn D past n.update.globalExitRoot n.block ∧
        a.record? n.update.globalExitRoot =
          some ⟨⟨n.update.mainnetExitRoot, n.update.rollupExitRoot⟩, n.block.timestamp,
            n.update.l1InfoIndex⟩ ∧
        a.l1InfoTree.leaf? k = some (leafOf n) ∧
        ∃ path, a.l1InfoTree.path D.hasher k = .ok path ∧
          path.verify D.hasher n.update.l1InfoIndex (leafOf n) (a.l1InfoTree.root D.hasher) =
            true) ∧
      (ledgersOf past now).Pairwise fun l l' => ∀ d record,
        l.roots.record? d = some record → l'.roots.record? d = some record := by
  intro leafOf
  obtain ⟨news, chronicle⟩ := session.exists_chronicle
  have updates := chronicle.updates (session.retention_journal unbounded)
  have records : a.Records D.hasher news := by
    have stored := chronicle.records
    rwa [authority] at stored
  have length : now.ledger.journal.updates.length = news.length := by
    rw [updates, List.length_map]
  refine ⟨news, updates, length ▸ records.knownCount, ?_, records.isKnown, fun k n hn => ?_, ?_⟩
  · rw [length, records.l1InfoTree.count, List.length_map]
  · have fits := records.fits k n hn
    have hmem : n ∈ news := List.mem_of_getElem? hn
    have leaves : news.map leafOf = news.map (·.leaf.hash D.hasher) :=
      List.map_congr_left fun n _ => (n.hash_leaf D.hasher).symm
    obtain ⟨leaf, path⟩ := records.exists_path hn
    rw [n.hash_leaf] at leaf path
    refine ⟨records.l1InfoIndex hn, ?_, ?_, fits.timestamp, chronicle.first n hmem,
      records.record n hmem, leaf, path⟩
    · rw [fits.globalExitRoot, n.hash_roots]
    · rw [List.map_take, leaves]
      exact fits.l1InfoRoot
  · exact session.pairwise_ledgersOf (fun _ _ _ h => h)
      (fun h h' d record old => h' d record (h d record old))
      fun moved _ _ old => moved.record?_eq_some old

/-- Network 0 has announced the global exit root that it knows after its first call. -/
theorem registry_agrees_first : ∃ (D : Deployment) (past : List (Step Host))
    (now : BridgeState Host) (a : RootAuthority) (n : Announcement),
    Session D (fun _ _ => True) past now ∧ D.config.journalRetention = none ∧
      now.ledger.roots = .authority a ∧ n.update ∈ now.ledger.journal.updates ∧
      FirstPublishedIn D past n.update.globalExitRoot n.block ∧
      a.record? n.update.globalExitRoot =
        some ⟨⟨n.update.mainnetExitRoot, n.update.rollupExitRoot⟩, n.block.timestamp,
          n.update.l1InfoIndex⟩ ∧
      a.l1InfoTree.leaf? n.update.l1InfoIndex.toNat =
        some (D.hasher.hash (n.update.globalExitRoot.toList ++ n.block.blockHash.toList ++
          bigEndian 8 n.block.timestamp.toNat)) := by
  obtain ⟨a, authority, -, known, -⟩ := Moment.exists_firstFold .keccak Host.accepting
  obtain ⟨host, session⟩ := (Run.first .keccak Host.accepting).session (n := 0) (if_pos rfl)
  obtain ⟨news, updates, -, -, isKnown, each, -⟩ :=
    registry_agrees session rfl (a := a) authority
  obtain ⟨n, hn, -⟩ := (isKnown _).1 known
  obtain ⟨k, hk⟩ := List.getElem?_of_mem hn
  obtain ⟨rfl, -, -, -, first, record, leaf, -⟩ := each k n hk
  refine ⟨_, _, _, a, n, session, rfl, authority, ?_, first, record, leaf⟩
  rw [updates]
  exact List.mem_map_of_mem hn

end ExitBridge
