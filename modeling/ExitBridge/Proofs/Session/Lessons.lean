/-
  What an authority announces and what a replica learns.

  The authority's journal tells of each new global exit root when it is announced, and forgets it
  later if it is bounded. A replica keeps the first lesson about each global exit root.

  * `Announcing`: the announcements of a session, and what its journal has told of them;
    `Session.exists_announcing`.
  * `Lesson`, `Call.lessons`: what a call teaches; `RootReplica.Learned`: what lessons make known.
  * `Session.learned`: a replica knows what it was taught, and nothing else.
  * `Call.exists_ingest`: a page of events is taken in, and the global exit roots that were new are
    counted.
-/
import ExitBridge.Proofs.Session.Registry

namespace ExitBridge

open LedgerM

/-! ## A bounded journal -/

namespace Journal

variable {j : Journal} {event : Event} {events : List Event}

theorem mem_push_self (keeps : j.retention ≠ some 0) : event ∈ (j.push event).events := by
  rw [push]
  split
  · exact Array.mem_push_self
  · rename_i kept bounded
    have positive : kept ≠ 0 := fun zero => keeps (zero ▸ bounded)
    have before : (j.events.push event).size - kept ≤ j.events.toList.length := by
      simp only [Array.size_push, Array.length_toList]
      omega
    rw [Array.mem_def, Array.toList_extract, List.extract_eq_take_drop,
      List.take_of_length_le (by simp), Array.toList_push, List.drop_append_of_le_length before]
    exact List.mem_append_right _ (List.mem_singleton_self _)

theorem mem_pushAll {x : Event} (h : x ∈ (j.pushAll events).events) :
    x ∈ j.events ∨ x ∈ events := by
  induction events generalizing j with
  | nil => exact .inl h
  | cons event events ih =>
    rcases ih h with old | new
    · rcases mem_push old with old | rfl
      · exact .inl old
      · exact .inr List.mem_cons_self
    · exact .inr (List.mem_cons_of_mem _ new)

theorem mem_pushAll_last (keeps : j.retention ≠ some 0) :
    event ∈ (j.pushAll (events ++ [event])).events := by
  rw [pushAll, List.foldl_append]
  exact mem_push_self ((retention_pushAll j events).symm ▸ keeps)

end Journal

/-! ## Announcements -/

/-- The journal tells of an announcement, and of nothing else, when a move makes one. -/
theorem Move.events_of_announcement? {m : Move} {n : Announcement} (h : m.announcement? = some n) :
    m.events = [.updateL1InfoTree n.update] := by
  have event {o : PublishOutcome} {block : BlockContext} (h : o.announcement? block = some n) :
      (o.event? block).toList = [.updateL1InfoTree n.update] := by
    rw [PublishOutcome.event?_eq, h]
    rfl
  cases m with
  | publish block outcome? =>
    cases outcome? with
    | none => cases h
    | some outcome => exact event h
  | fold index root block outcome => exact event h
  | _ => cases h

theorem Move.announcement?_of_mem_events {m : Move} {e : L1InfoTreeUpdate}
    (h : .updateL1InfoTree e ∈ m.events) : ∃ n, m.announcement? = some n ∧ n.update = e := by
  have told : e ∈ m.events.filterMap Event.update? := List.mem_filterMap.2 ⟨_, h, rfl⟩
  rw [m.updates_events, Option.mem_toList] at told
  exact Option.map_eq_some_iff.1 told

section

variable {σ : Type} [ExecutionHost σ] {D : Deployment} {s : BridgeState σ} {host : σ}
  {call : Call} {answer : Answer} {moves : List Move}

/-- What a call announces, the journal tells of last. -/
theorem Call.Makes.events_of_announcement (h : call.Makes D s answer moves host) {n : Announcement}
    (hn : n ∈ moves.filterMap Move.announcement?) :
    ∃ events, moves.flatMap Move.events = events ++ [.updateL1InfoTree n.update] := by
  have last (first : List Move) {m : Move} (split : moves = first ++ [m])
      (silent : first.filterMap Move.announcement? = []) :
      ∃ events, moves.flatMap Move.events = events ++ [.updateL1InfoTree n.update] := by
    rw [split, List.filterMap_append, silent, List.nil_append, List.mem_filterMap] at hn
    obtain ⟨m, hm, told⟩ := hn
    obtain rfl := List.mem_singleton.1 hm
    refine ⟨first.flatMap Move.events, ?_⟩
    rw [split, List.flatMap_append, List.flatMap_singleton, Move.events_of_announcement? told]
  cases h with
  | depositPublished => exact last [_] rfl rfl
  | publish => exact last [] rfl rfl
  | fold => exact last [] rfl rfl
  | @claim kind c receipt key host honours =>
    refine last (receipt.newWrappedToken.map fun token => .register (c.newToken token)).toList
      rfl ?_
    cases receipt.newWrappedToken <;> rfl
  | ingest =>
    rw [Move.filterMap_lessons (fun _ _ => rfl)] at hn
    cases hn
  | _ => cases hn

end

section

variable {σ : Type} [ExecutionHost σ] {D : Deployment} {handled : σ → σ → Prop}
  {past : List (Step σ)} {now : BridgeState σ} {news : List Announcement}

/-- The announcements of a session so far: the store has recorded them, the journal tells of no
    others, and has told of each of them at some time. -/
structure Announcing (D : Deployment) (past : List (Step σ)) (now : BridgeState σ)
    (news : List Announcement) : Prop where
  records : now.ledger.roots.Records D.hasher news
  told : ∀ e, .updateL1InfoTree e ∈ now.ledger.journal.events → ∃ n ∈ news, n.update = e
  seen : ∀ n ∈ news, ∃ l ∈ ledgersOf past now, .updateL1InfoTree n.update ∈ l.journal.events

theorem Session.retention_ne_zero (session : Session D handled past now) :
    now.ledger.journal.retention ≠ some 0 := by
  refine session.invariant (P := fun l => l.journal.retention ≠ some 0) ?_ fun moved keeps => ?_
  · rw [Deployment.genesis, Journal.empty]
    cases D.config.journalRetention with
    | none => simp
    | some kept => simp
  · rwa [moved.journal, Journal.retention_pushAll]

theorem Step.exists_announced {m : Step σ} (h : Announcing D past m.before news)
    (keeps : m.before.ledger.journal.retention ≠ some 0) :
    ∃ more, Announcing D (past ++ [m]) (m.after D) (news ++ more) := by
  obtain ⟨moves, chain, step⟩ := m.exists_chain D
  refine ⟨moves.filterMap Move.announcement?, chain.records h.records, fun e he => ?_,
    fun n hn => ?_⟩
  · rw [chain.journal] at he
    rcases Journal.mem_pushAll he with old | new
    · obtain ⟨n, hn, rfl⟩ := h.told e old
      exact ⟨n, List.mem_append_left _ hn, rfl⟩
    · obtain ⟨move, hmove, he⟩ := List.mem_flatMap.1 new
      obtain ⟨n, hn, rfl⟩ := Move.announcement?_of_mem_events he
      exact ⟨n, List.mem_append_right _ (List.mem_filterMap.2 ⟨move, hmove, hn⟩), rfl⟩
  · rw [Session.ledgersOf_snoc]
    rcases List.mem_append.1 hn with old | new
    · obtain ⟨l, hl, told⟩ := h.seen n old
      exact ⟨l, List.mem_append_left _ hl, told⟩
    · refine ⟨_, List.mem_append_right _ (List.mem_singleton_self _), ?_⟩
      rcases step with ⟨answer, -, makes⟩ | ⟨-, rfl⟩
      · obtain ⟨events, last⟩ := makes.events_of_announcement new
        rw [chain.journal, last]
        exact Journal.mem_pushAll_last keeps
      · cases new

theorem Session.exists_announcing (session : Session D handled past now) :
    ∃ news, Announcing D past now news := by
  induction session with
  | start created =>
    have genesis := genesis_of_create created
    refine ⟨[], ?_, fun e he => ?_, nofun⟩
    · rw [genesis]
      exact RootStore.records_ofRole _ _
    · rw [genesis] at he
      exact absurd he (Array.not_mem_empty _)
  | call session ih =>
    obtain ⟨news, announcing⟩ := ih
    obtain ⟨more, announcing⟩ := Step.exists_announced announcing session.retention_ne_zero
    exact ⟨news ++ more, announcing⟩
  | host _ _ ih =>
    obtain ⟨news, announcing⟩ := ih
    exact ⟨news, announcing.records, announcing.told, announcing.seen⟩

end

/-! ## Lessons -/

/-- A global exit root, and when it is said to have been first seen. -/
structure Lesson where
  roots : GlobalExitRoot
  timestamp : UInt64

/-- The lesson of an update. -/
def L1InfoTreeUpdate.lesson (e : L1InfoTreeUpdate) : Lesson :=
  ⟨⟨e.mainnetExitRoot, e.rollupExitRoot⟩, e.timestamp⟩

/-- The lesson of a move. -/
def Move.lesson? : Move → Option Lesson
  | learn roots timestamp => some ⟨roots, timestamp⟩
  | _ => none

/-- The lessons of a list of events. -/
def lessonsOf (events : List Event) : List Lesson :=
  (events.filterMap Event.update?).map (·.lesson)

/-- What a call teaches a replica. -/
def Call.lessons : Call → List Lesson
  | importGlobalExitRoot roots timestamp => [⟨roots, timestamp⟩]
  | ingestPeerEvents batch => lessonsOf (batch.entries.map (·.event))
  | _ => []

theorem mem_lessonsOf {events : List Event} {p : Lesson} :
    p ∈ lessonsOf events ↔ ∃ e, .updateL1InfoTree e ∈ events ∧ e.lesson = p := by
  simp only [lessonsOf, List.mem_map, List.mem_filterMap]
  constructor
  · rintro ⟨e, ⟨event, hmem, told⟩, rfl⟩
    cases event with
    | updateL1InfoTree e' =>
      obtain rfl := Option.some.inj told
      exact ⟨_, hmem, rfl⟩
    | _ => cases told
  · rintro ⟨e, hmem, rfl⟩
    exact ⟨e, ⟨_, hmem, rfl⟩, rfl⟩

theorem Move.filterMap_lesson?_lessons (events : List Event) :
    (Move.lessons events).filterMap Move.lesson? = lessonsOf events := by
  fun_induction Move.lessons events with
  | case1 => rfl
  | case2 e rest ih => exact congrArg (List.cons e.lesson) ih
  | case3 event rest other ih =>
    cases event with
    | updateL1InfoTree e => exact absurd rfl (other e)
    | _ => exact ih

namespace RootReplica

variable {H : NodeHasher} {r r' : RootReplica} {lessons : List Lesson} {p : Lesson}

/-- The first timestamp of a global exit root stays. -/
theorem timestamp?_learn {d known : Digest} {timestamp t : UInt64}
    (h : (r.learn d timestamp).2.timestamp? known = some t) :
    r.timestamp? known = some t ∨ d = known ∧ timestamp = t := by
  rw [learn] at h
  split at h
  · exact .inl h
  · rw [timestamp?, Std.HashMap.getElem?_insert] at h
    split at h
    · rename_i same
      exact .inr ⟨eq_of_beq same, Option.some.inj h⟩
    · exact .inl h

theorem knownCount_learn (r : RootReplica) (d : Digest) (timestamp : UInt64) :
    (r.learn d timestamp).2.knownCount =
      r.knownCount + if (r.learn d timestamp).1 then 1 else 0 := by
  rw [learn]
  split
  · rfl
  · rename_i unknown
    rw [knownCount, Std.HashMap.size_insert, if_neg (by simpa [isKnown] using unknown)]
    rfl

/-- A replica has had these lessons about global exit roots, and no others. -/
structure Learned (H : NodeHasher) (lessons : List Lesson) (r : RootReplica) : Prop where
  isKnown : ∀ d, r.isKnown d = true ↔ ∃ p ∈ lessons, p.roots.hash H = d
  timestamp : ∀ d t, r.timestamp? d = some t → ∃ p ∈ lessons, p.roots.hash H = d ∧ p.timestamp = t

theorem learned_empty (H : NodeHasher) : Learned H [] empty where
  isKnown d := by simp [RootReplica.isKnown, empty]
  timestamp d t h := by simp [timestamp?, empty] at h

theorem Learned.of_registry (h : r.Learned H lessons) (same : r'.registry = r.registry) :
    r'.Learned H lessons := by
  refine ⟨fun d => ?_, fun d t ht => ?_⟩
  · rw [RootReplica.isKnown, same]
    exact h.isKnown d
  · rw [timestamp?, same] at ht
    exact h.timestamp d t ht

theorem Learned.learn (h : r.Learned H lessons) (p : Lesson) :
    (r.learn (p.roots.hash H) p.timestamp).2.Learned H (lessons ++ [p]) := by
  refine ⟨fun d => ?_, fun d t ht => ?_⟩
  · rw [isKnown_learn, h.isKnown, @eq_comm _ d]
    simp [or_and_right, exists_or]
  · rcases timestamp?_learn ht with old | ⟨hash, timestamp⟩
    · obtain ⟨p, hp, same⟩ := h.timestamp d t old
      exact ⟨p, List.mem_append_left _ hp, same⟩
    · exact ⟨p, List.mem_append_right _ (List.mem_singleton_self p), hash, timestamp⟩

end RootReplica

/-- The store is that of a replica that has had these lessons. -/
def RootStore.Learned (H : NodeHasher) (lessons : List Lesson) : RootStore → Prop
  | authority _ => False
  | replica r => r.Learned H lessons

namespace RootStore

variable {H : NodeHasher} {lessons : List Lesson} {s : RootStore}

theorem Learned.isAuthority (h : s.Learned H lessons) : s.isAuthority = false := by
  cases s with
  | authority a => exact h.elim
  | replica r => rfl

theorem Learned.isKnown (h : s.Learned H lessons) (d : Digest) :
    s.isKnown d = true ↔ ∃ p ∈ lessons, p.roots.hash H = d := by
  cases s with
  | authority a => exact h.elim
  | replica r => exact RootReplica.Learned.isKnown h d

theorem Learned.timestamp (h : s.Learned H lessons) {d : Digest} {t : UInt64}
    (ht : s.timestamp? d = some t) : ∃ p ∈ lessons, p.roots.hash H = d ∧ p.timestamp = t := by
  cases s with
  | authority a => exact h.elim
  | replica r => exact RootReplica.Learned.timestamp h d t ht

/-- What is known has a timestamp. -/
theorem isKnown_iff_timestamp (s : RootStore) (d : Digest) :
    s.isKnown d = true ↔ ∃ t, s.timestamp? d = some t := by
  cases s with
  | authority a =>
    simp only [isKnown, RootAuthority.isKnown, timestamp?, RootAuthority.record?,
      Std.HashMap.contains_eq_isSome_getElem?, Option.isSome_iff_exists, Option.map_eq_some_iff]
    constructor
    · rintro ⟨record, h⟩
      exact ⟨_, record, h, rfl⟩
    · rintro ⟨_, record, h, -⟩
      exact ⟨record, h⟩
  | replica r =>
    simp only [isKnown, RootReplica.isKnown, timestamp?, RootReplica.timestamp?,
      Std.HashMap.contains_eq_isSome_getElem?, Option.isSome_iff_exists]

theorem timestamp?_of_record? {d : Digest} {record : GlobalExitRootRecord}
    (h : s.record? d = some record) : s.timestamp? d = some record.timestamp := by
  cases s with
  | authority a => exact Option.map_eq_some_iff.2 ⟨record, h, rfl⟩
  | replica r => cases h

theorem Records.record? {news : List Announcement} (records : s.Records H news) {n : Announcement}
    (hn : n ∈ news) :
    s.record? (n.roots.hash H) = some n.record ∧ n.update.timestamp = n.block.timestamp := by
  cases s with
  | authority a => exact RootAuthority.Records.record_of_mem records hn
  | replica r =>
    obtain rfl : news = [] := records
    cases hn

theorem Records.isKnown {news : List Announcement} (records : s.Records H news)
    (role : s.isAuthority = true) (d : Digest) :
    s.isKnown d = true ↔ ∃ n ∈ news, n.roots.hash H = d := by
  cases s with
  | replica r => cases role
  | authority a =>
    have hash (n : Announcement) (hn : n ∈ news) : n.update.globalExitRoot = n.roots.hash H := by
      obtain ⟨k, hk⟩ := List.getElem?_of_mem hn
      exact (RootAuthority.Records.fits records k n hk).globalExitRoot
    refine (RootAuthority.Records.isKnown records d).trans (exists_congr fun n => ?_)
    refine and_congr_right fun hn => ?_
    rw [hash n hn]

end RootStore

namespace Ledger

variable {D : Deployment} {l l' : Ledger} {m : Move} {moves : List Move} {lessons : List Lesson}

theorem Moves.isAuthority (h : l.Moves D m l') : l'.roots.isAuthority = l.roots.isAuthority := by
  rcases h.roots_cases with ⟨_, _, -, -, announces⟩ | ⟨_, _, _, -, before, after⟩ | ⟨-, -, same⟩
  · generalize l.roots = s, l'.roots = s' at announces
    cases announces <;> rfl
  · rw [before, after]
    rfl
  · rw [same]

theorem Moves.learned (h : l.Moves D m l') (learned : l.roots.Learned D.hasher lessons) :
    l'.roots.Learned D.hasher (lessons ++ m.lesson?.toList) := by
  cases h with
  | @publish block outcome? roots recorded =>
    cases hroots : l.roots with
    | authority a =>
      rw [hroots] at learned
      exact learned.elim
    | replica r =>
      rw [hroots] at recorded learned
      cases recorded
      exact (List.append_nil lessons).symm ▸ RootReplica.Learned.of_registry learned rfl
  | fold authority _ =>
    rw [authority] at learned
    exact learned.elim
  | @learn r roots timestamp replica =>
    rw [replica] at learned
    exact RootReplica.Learned.learn learned ⟨roots, timestamp⟩
  | _ => exact (List.append_nil lessons).symm ▸ learned

theorem Chain.learned (h : l.Chain D moves l') (learned : l.roots.Learned D.hasher lessons) :
    l'.roots.Learned D.hasher (lessons ++ moves.filterMap Move.lesson?) := by
  rw [List.filterMap_eq_flatMap_toList]
  induction h generalizing lessons with
  | nil => simpa using learned
  | cons first _ ih =>
    rw [List.flatMap_cons, ← List.append_assoc]
    exact ih (first.learned learned)

end Ledger

/-! ## Calls to a replica -/

section

variable {σ : Type} {D : Deployment} {s s' : BridgeState σ}

theorem importGlobalExitRoot_knownCount {roots : GlobalExitRoot} {timestamp : UInt64} {isNew : Bool}
    (h : importGlobalExitRoot D roots timestamp s = .ok isNew s') :
    s'.ledger.roots.knownCount = s.ledger.roots.knownCount + if isNew then 1 else 0 := by
  simp only [importGlobalExitRoot, bind_eq_ok, ledger_eq_ok] at h
  obtain ⟨_, _, ⟨rfl, rfl⟩, h⟩ := h
  cases hroots : s.ledger.roots with
  | authority a =>
    rw [hroots] at h
    exact (throw_eq_ok.1 h).elim
  | replica r =>
    simp only [hroots, bind_eq_ok, change_eq_ok, pure_eq_ok] at h
    obtain ⟨_, _, rfl, rfl, rfl⟩ := h
    exact r.knownCount_learn _ _

/-- What a list of events adds to the known global exit roots is counted. -/
theorem ingestEvents_knownCount {events : List Event} {count : Nat}
    (h : ingestEvents D events s = .ok count s') :
    s'.ledger.roots.knownCount = s.ledger.roots.knownCount + count := by
  fun_induction ingestEvents D events generalizing s count with
  | case1 =>
    obtain ⟨rfl, rfl⟩ := pure_eq_ok.1 h
    rfl
  | case2 e rest ih =>
    simp only [bind_eq_ok, pure_eq_ok] at h
    obtain ⟨isNew, s₁, himport, more, _, hrest, rfl, rfl⟩ := h
    rw [ih hrest, importGlobalExitRoot_knownCount himport, Nat.add_assoc]
  | case3 event rest _ ih => exact ih h

variable [ExecutionHost σ] {call : Call} {answer : Answer} {moves : List Move} {host : σ}

theorem Call.exists_ingest (batch : EventBatch) (replica : s.ledger.roots.isAuthority = false) :
    ∃ count s', (Call.ingestPeerEvents batch).run D s = .ok (.learned count) s' ∧
      s'.ledger.roots.knownCount = s.ledger.roots.knownCount + count := by
  cases h : ExitBridge.ingestPeerEvents D batch s with
  | error e s' =>
    have authority := (ingestEvents_eq_error h).1
    rw [replica] at authority
    cases authority
  | ok count s' => exact ⟨count, s', map_eq_ok.2 ⟨count, h, rfl⟩, ingestEvents_knownCount h⟩

theorem Call.Deposits.lessons {receipt : DepositReceipt} {e : BridgeEvent}
    (h : call.Deposits D s receipt e host) : call.lessons = [] := by
  cases call with
  | importGlobalExitRoot roots timestamp => cases h.event
  | ingestPeerEvents batch => cases h.event
  | _ => rfl

/-- The moves of a call are its lessons, and others that teach nothing. -/
theorem Call.Makes.lessons (h : call.Makes D s answer moves host) :
    moves.filterMap Move.lesson? = call.lessons := by
  cases h with
  | @claim kind c receipt key host honours =>
    rw [Claim.moves, List.filterMap_append]
    cases receipt.newWrappedToken <;> rfl
  | ingest => exact Move.filterMap_lesson?_lessons _
  | deposit deposits => exact deposits.lessons.symm
  | depositPublished deposits => exact deposits.lessons.symm
  | _ => rfl

/-- A call that teaches is refused by the authority only. -/
theorem Call.lessons_of_error {e : LedgerError} (h : call.run D s = .error e s')
    (replica : s.ledger.roots.isAuthority = false) : call.lessons = [] := by
  have role {P : Prop} (h : s.ledger.roots.isAuthority = true ∧ P) : call.lessons = [] :=
    absurd (replica.symm.trans h.1) nofun
  cases call with
  | importGlobalExitRoot roots timestamp =>
    exact role (importGlobalExitRoot_eq_error (map_eq_error.1 h))
  | ingestPeerEvents batch => exact role (ingestEvents_eq_error (map_eq_error.1 h))
  | _ => rfl

end

/-! ## Sessions of a replica -/

section

variable {σ : Type} [ExecutionHost σ] {D : Deployment} {handled : σ → σ → Prop}
  {past : List (Step σ)} {now : BridgeState σ}

/-- What a session's calls have taught. -/
def taughtBy (past : List (Step σ)) : List Lesson := past.flatMap (·.call.lessons)

theorem Step.learned {m : Step σ} {lessons : List Lesson}
    (h : m.before.ledger.roots.Learned D.hasher lessons) :
    (m.after D).ledger.roots.Learned D.hasher (lessons ++ m.call.lessons) := by
  obtain ⟨moves, chain, step⟩ := m.exists_chain D
  have learned := chain.learned h
  rcases step with ⟨answer, -, makes⟩ | ⟨⟨e, refused⟩, rfl⟩
  · rwa [makes.lessons] at learned
  · rwa [Call.lessons_of_error (answer_eq_error.1 refused) h.isAuthority]

theorem Session.isAuthority (session : Session D handled past now) :
    now.ledger.roots.isAuthority = D.config.isAggregatorAuthority := by
  refine session.invariant (P := fun l => l.roots.isAuthority = D.config.isAggregatorAuthority) ?_
    fun moved same => moved.isAuthority.trans same
  rw [Deployment.genesis]
  cases D.config.isAggregatorAuthority <;> rfl

/-- **A replica** knows what it was taught, and nothing else. -/
theorem Session.learned (session : Session D handled past now)
    (replica : now.ledger.roots.isAuthority = false) :
    now.ledger.roots.Learned D.hasher (taughtBy past) := by
  rw [session.isAuthority] at replica
  induction session with
  | start created =>
    rw [genesis_of_create created, Deployment.genesis, replica]
    exact RootReplica.learned_empty D.hasher
  | @call past m _ ih =>
    rw [taughtBy, List.flatMap_append, List.flatMap_singleton]
    exact Step.learned ih
  | host _ _ ih => exact ih

end

end ExitBridge
