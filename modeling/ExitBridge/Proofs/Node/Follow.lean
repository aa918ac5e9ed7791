/-
  A replica that follows an authority.

  The replica asks for the journal page by page, each time from its cursor on, and stops at a page
  that is not full. Between such calls the authority goes on, and may forget events that the replica
  has not read. A call may also end early; the pages that it has taken in by then count.

  * `Node.Fetches`: pages taken in one after another; `Following`: an authority and a replica that
    learns in no other way.
  * `Node.Tells`, `Node.Heard`: what holds of the authority and of the replica at any time, over the
    history of all events.
  * `Node.Heard.page`, `Node.Heard.drain`: one page, and a call to its end.
  * `sync_reaches_head`: the replica catches up and loses nothing.
-/
import ExitBridge.Proofs.Ledger.Journal
import ExitBridge.Proofs.Node.Call

namespace ExitBridge

/-! ## Following -/

/-- Pages of the authority's journal are taken in one after another, each from the cursor on. -/
inductive Node.Fetches (A : Node) : Node → List EventBatch → Node → Prop
  | nil {R : Node} : Fetches A R [] R
  | cons {R R₁ R' : Node} {batch : EventBatch} {pages : List EventBatch} {count : Nat}
      (served : A.eventsPage ⟨R.syncCursor, some Node.syncPageSize⟩ = .ok batch)
      (ingested : R.ingest batch = (.ok count, R₁)) (rest : Fetches A R₁ pages R') :
      Fetches A R (batch :: pages) R'

/-- The entries of pages in turn. -/
def entriesOf (pages : List EventBatch) : List JournalEntry := pages.flatMap (·.entries)

/-- An authority and a replica that learns from it only: the states that the authority has been in,
    the pages that the replica has taken in, and both now. A call of the replica may end early, so
    it takes in any number of pages. -/
inductive Following (H : NodeHasher) : List Node → List EventBatch → Node → Node → Prop
  | start {s s' : Settings} {A R : Node} (authority : Node.create H s = .ok A)
      (replica : Node.create H s' = .ok R) (role : s.aggregatorAuthority = true)
      (role' : s'.aggregatorAuthority = false) : Following H [A] [] A R
  | authority {states : List Node} {pages : List EventBatch} {A A' R : Node}
      (following : Following H states pages A R) (acts : A.Acts (fun _ => True) A') :
      Following H (states ++ [A']) pages A' R
  | replica {states : List Node} {pages : List EventBatch} {A R R' : Node}
      (following : Following H states pages A R) (acts : R.Acts (fun c => c.ingests = false) R') :
      Following H states pages A R'
  | fetch {states : List Node} {pages more : List EventBatch} {A R R' : Node}
      (following : Following H states pages A R) (fetches : A.Fetches R more R') :
      Following H states (pages ++ more) A R'

/-! ## The authority -/

namespace Node

/-- The authority's journal keeps an end of all events, and it knows the global exit roots that they
    tell of. -/
structure Tells (H : NodeHasher) (all : List Event) (news : List Announcement) (A : Node) :
    Prop where
  hasher : A.deployment.hasher = H
  keeps : A.ledger.journal.Keeps all
  role : A.ledger.roots.isAuthority = true
  records : A.ledger.roots.Records H news
  updates : all.filterMap Event.update? = news.map (·.update)

variable {H : NodeHasher} {all events : List Event} {news : List Announcement}
  {pages more : List EventBatch} {A A' R R' : Node}

theorem deployed_of_create {s : Settings} {n : Node} (h : create H s = .ok n) :
    Deployment.create H s.ledgerConfig (.create2 H) (Book.empty s.bridgeAddress) =
      .ok (n.deployment, n.bridge) ∧ n.settings = s ∧ n.syncCursor = 0 := by
  unfold create at h
  split at h
  · cases h
  · rename_i created
    cases h
    exact ⟨created, rfl, rfl⟩

theorem create_eq_ok {s : Settings} {n : Node} (h : create H s = .ok n) :
    n.deployment.hasher = H ∧ n.ledger = Deployment.genesis s.ledgerConfig ∧ n.syncCursor = 0 := by
  obtain ⟨created, -, cursor⟩ := deployed_of_create h
  obtain ⟨-, hasher, -, genesis⟩ := Deployment.create_eq_ok created
  exact ⟨hasher, genesis, cursor⟩

theorem exists_create (H : NodeHasher) {s : Settings} (valid : s.ledgerConfig.validate = .ok ())
    (ether : s.ledgerConfig.effectiveGasToken? = none) : ∃ n, create H s = .ok n := by
  unfold create
  rw [Deployment.create_of_validate valid ether]
  exact ⟨_, rfl⟩

theorem isAuthority_ledgerConfig (s : Settings) :
    s.ledgerConfig.isAggregatorAuthority = s.aggregatorAuthority := by
  unfold Settings.ledgerConfig
  cases s.aggregatorAuthority <;> rfl

theorem tells_create {s : Settings} (h : create H s = .ok A)
    (role : s.aggregatorAuthority = true) : A.Tells H [] [] := by
  obtain ⟨hasher, genesis, -⟩ := create_eq_ok h
  refine ⟨hasher, ?_, ?_, ?_, rfl⟩
  · rw [genesis]
    exact Journal.keeps_empty _
  · rw [genesis, Deployment.genesis, isAuthority_ledgerConfig, role]
    rfl
  · rw [genesis]
    exact RootStore.records_ofRole H _

theorem Tells.acts {rule : NodeCall → Prop} (tells : A.Tells H all news) (acts : A.Acts rule A') :
    ∃ events told, A'.Tells H (all ++ events) (news ++ told) := by
  obtain ⟨deployment, moves, chain⟩ := acts.exists_chain
  obtain rfl := tells.hasher
  refine ⟨moves.flatMap Move.events, moves.filterMap Move.announcement?, ?_, ?_, ?_, ?_, ?_⟩
  · rw [deployment]
  · exact chain.keeps tells.keeps
  · exact acts.isAuthority.trans tells.role
  · exact chain.records tells.records
  · rw [List.filterMap_append, tells.updates, List.map_append, List.filterMap_flatMap,
      List.map_filterMap, List.filterMap_eq_flatMap_toList]
    simp only [Move.updates_events]

/-! ## The replica -/

/-- The replica has taken in all events before its cursor, and knows the global exit roots that they
    tell of. -/
structure Heard (H : NodeHasher) (all : List Event) (pages : List EventBatch) (R : Node) :
    Prop where
  hasher : R.deployment.hasher = H
  cursor : R.syncCursor ≤ all.length
  learned : R.ledger.roots.Learned H (lessonsOf (all.take R.syncCursor))
  entries : entriesOf pages = entriesFrom 0 (all.take R.syncCursor)

theorem heard_create {s : Settings} (h : create H s = .ok R)
    (role : s.aggregatorAuthority = false) : R.Heard H [] [] := by
  obtain ⟨hasher, genesis, cursor⟩ := create_eq_ok h
  refine ⟨hasher, ?_, ?_, ?_⟩
  · rw [cursor]
    exact Nat.zero_le _
  · rw [genesis, Deployment.genesis, isAuthority_ledgerConfig, role, List.take_nil]
    exact RootReplica.learned_empty H
  · simp [entriesOf, entriesFrom]

theorem Heard.append (heard : R.Heard H all pages) : R.Heard H (all ++ events) pages := by
  have cursor := heard.cursor
  have before : (all ++ events).take R.syncCursor = all.take R.syncCursor :=
    List.take_append_of_le_length cursor
  refine ⟨heard.hasher, ?_, ?_, ?_⟩
  · rw [List.length_append]
    omega
  · rw [before]
    exact heard.learned
  · rw [before]
    exact heard.entries

theorem Heard.acts (heard : R.Heard H all pages) (acts : R.Acts (fun c => c.ingests = false) R') :
    R'.Heard H all pages := by
  obtain rfl := heard.hasher
  obtain ⟨learned, cursor⟩ := acts.learned heard.learned
  obtain ⟨deployment, -⟩ := acts.exists_chain
  refine ⟨?_, ?_, ?_, ?_⟩
  · rw [deployment]
  · rw [cursor]
    exact heard.cursor
  · rw [cursor]
    exact learned
  · rw [cursor]
    exact heard.entries

/-! ## Pages -/

/-- What it takes for a page of events to be taken in, and what has become of the replica. -/
theorem ingest_eq_ok {n n' : Node} {batch : EventBatch} {count : Nat}
    (h : n.ingest batch = (.ok count, n')) :
    n.Called (.ingestPeerEvents batch) n' ∧ n'.knownCount = n.knownCount + count ∧
      n'.syncCursor = batch.nextCursor := by
  have called := n.called_ingest batch
  rw [h] at called
  refine ⟨called, ?_, syncCursor_of_ingest h⟩
  unfold ingest perform at h
  cases hrun : ExitBridge.ingestPeerEvents n.deployment batch n.bridge with
  | ok imported s =>
    rw [hrun] at h
    cases h
    exact ingestEvents_knownCount hrun
  | error e s =>
    rw [hrun] at h
    cases h

theorem exists_ingest {n : Node} (replica : n.ledger.roots.isAuthority = false)
    (batch : EventBatch) : ∃ count n', n.ingest batch = (.ok count, n') := by
  unfold ingest perform
  cases hrun : ExitBridge.ingestPeerEvents n.deployment batch n.bridge with
  | ok imported s => exact ⟨imported, _, rfl⟩
  | error e s =>
    have authority := (ingestEvents_eq_error hrun).1
    rw [ledger] at replica
    rw [replica] at authority
    cases authority

/-- The page that a replica asks for, unless its cursor has been forgotten. -/
theorem Tells.eventsPage (tells : A.Tells H all news) {cursor : Nat} (reached : cursor ≤ all.length)
    (kept : A.ledger.journal.oldest ≤ cursor) :
    A.eventsPage ⟨cursor, some syncPageSize⟩ =
      .ok ⟨entriesFrom cursor ((all.drop cursor).take syncPageSize),
        cursor + ((all.drop cursor).take syncPageSize).length⟩ := by
  have page := tells.keeps.since syncPageSize kept reached
  change (A.ledger.journal.since cursor syncPageSize).mapError _ = _
  rw [page]
  rfl

theorem Tells.eventsPage_of_lt (tells : A.Tells H all news) {cursor : Nat}
    (forgotten : cursor < A.ledger.journal.oldest) :
    A.eventsPage ⟨cursor, some syncPageSize⟩ =
      .error (.source (.cursorPruned cursor A.ledger.journal.oldest)) := by
  change (A.ledger.journal.since cursor syncPageSize).mapError _ = _
  rw [tells.keeps.since_of_lt _ forgotten]
  rfl

/-- **One page:** the replica has taken in that many events more. -/
theorem Heard.page (tells : A.Tells H all news) (heard : R.Heard H all pages) {batch : EventBatch}
    {count : Nat} (served : A.eventsPage ⟨R.syncCursor, some syncPageSize⟩ = .ok batch)
    (ingested : R.ingest batch = (.ok count, R')) :
    R'.Heard H all (pages ++ [batch]) ∧ R'.knownCount = R.knownCount + count ∧
      R'.syncCursor = R.syncCursor + batch.entries.length ∧
      batch.entries.length = min syncPageSize (all.length - R.syncCursor) := by
  obtain rfl := heard.hasher
  have cursor := heard.cursor
  obtain ⟨called, counted, next⟩ := ingest_eq_ok ingested
  have kept : A.ledger.journal.oldest ≤ R.syncCursor := by
    by_contra forgotten
    rw [tells.eventsPage_of_lt (Nat.not_le.1 forgotten)] at served
    cases served
  have page := Except.ok.inj (served.symm.trans (tells.eventsPage cursor kept))
  generalize hread : (all.drop R.syncCursor).take syncPageSize = read at page
  have size : read.length = min syncPageSize (all.length - R.syncCursor) := by
    rw [← hread, List.length_take, List.length_drop]
  -- what has been read is followed by the page
  have before : all.take (R.syncCursor + read.length) = all.take R.syncCursor ++ read := by
    rw [List.take_add, ← hread, List.length_take, ← List.take_eq_take_min]
  have lessons : (Call.ingestPeerEvents batch).lessons = lessonsOf read := by
    rw [Call.lessons, page, events_entriesFrom]
  have length : batch.entries.length = read.length := by
    rw [page, length_entriesFrom]
  have next : R'.syncCursor = R.syncCursor + read.length := by
    rw [next, page]
  refine ⟨⟨?_, ?_, ?_, ?_⟩, counted, ?_, ?_⟩
  · rw [called.deployment]
  · omega
  · have learned := Step.learned (m := ⟨R.bridge, .ingestPeerEvents batch⟩) heard.learned
    rw [called.ledger, next, before, lessonsOf, List.filterMap_append, List.map_append]
    rwa [lessons] at learned
  · rw [entriesOf, List.flatMap_append, ← entriesOf, heard.entries, next, before,
      entriesFrom_append, List.length_take_of_le cursor, Nat.zero_add, List.flatMap_singleton, page]
  · rw [next, length]
  · rw [length, size]

theorem Heard.fetches (tells : A.Tells H all news) (heard : R.Heard H all pages)
    (fetches : A.Fetches R more R') :
    R'.Heard H all (pages ++ more) ∧ R.syncCursor ≤ R'.syncCursor := by
  induction fetches generalizing pages with
  | nil =>
    rw [List.append_nil]
    exact ⟨heard, Nat.le_refl _⟩
  | cons served ingested rest ih =>
    obtain ⟨after, -, next, -⟩ := heard.page tells served ingested
    obtain ⟨final, later⟩ := ih after
    rw [List.append_assoc] at final
    exact ⟨final, by omega⟩

/-! ## To the end -/

theorem drain_of_error {known : Nat} {e : ApiError}
    (refused : A.eventsPage ⟨R.syncCursor, some syncPageSize⟩ = .error e) :
    drain A R known = (.error (.authorityRefused e), R) := by
  rw [drain]
  split
  · rename_i e' refused'
    rw [refused] at refused'
    cases refused'
    rfl
  · rename_i batch served
    rw [refused] at served
    cases served

theorem drain_of_page {known count : Nat} {batch : EventBatch}
    (served : A.eventsPage ⟨R.syncCursor, some syncPageSize⟩ = .ok batch)
    (ingested : R.ingest batch = (.ok count, R')) :
    drain A R known = if batch.entries.length < syncPageSize then (.ok (known + count), R')
      else drain A R' (known + count) := by
  rw [drain]
  split
  · rename_i e refused
    rw [served] at refused
    cases refused
  · rename_i batch' served'
    obtain rfl := Except.ok.inj (served.symm.trans served')
    split
    · rename_i e after failed
      rw [ingested] at failed
      cases failed
    · rename_i imported after ingested'
      rw [ingested] at ingested'
      cases ingested'
      rfl

/-- **A call to its end:** unless its cursor has been forgotten, the replica takes in full pages and
    one that is not full, and reaches the head. -/
theorem Heard.drain (tells : A.Tells H all news) (heard : R.Heard H all pages)
    (kept : A.ledger.journal.oldest ≤ R.syncCursor) (known : Nat) :
    ∃ more count R', drain A R known = (.ok (known + count), R') ∧ A.Fetches R more R' ∧
      more.length = (all.length - R.syncCursor) / syncPageSize + 1 ∧
      R'.knownCount = R.knownCount + count ∧ R'.syncCursor = all.length := by
  -- on the number of full pages
  generalize hfull : (all.length - R.syncCursor) / syncPageSize = full
  induction full generalizing R pages known with
  | zero =>
    have cursor := heard.cursor
    obtain ⟨count, R', ingested⟩ := exists_ingest heard.learned.isAuthority _
    have served := tells.eventsPage cursor kept
    obtain ⟨-, counted, next, length⟩ := heard.page tells served ingested
    have few : all.length - R.syncCursor < syncPageSize := by
      rw [Nat.div_eq_zero_iff] at hfull
      exact hfull.resolve_left (by decide)
    refine ⟨[_], count, R', ?_, .cons served ingested .nil, rfl, counted, ?_⟩
    · rw [drain_of_page served ingested, if_pos (by omega)]
    · omega
  | succ full ih =>
    have cursor := heard.cursor
    obtain ⟨count, R₁, ingested⟩ := exists_ingest heard.learned.isAuthority _
    have served := tells.eventsPage cursor kept
    obtain ⟨after, counted, next, length⟩ := heard.page tells served ingested
    have many : syncPageSize ≤ all.length - R.syncCursor := by
      by_contra few
      rw [Nat.div_eq_of_lt (by omega)] at hfull
      cases hfull
    have rest : (all.length - R₁.syncCursor) / syncPageSize = full := by
      have fewer : all.length - R₁.syncCursor = all.length - R.syncCursor - syncPageSize := by omega
      rw [Nat.div_eq_sub_div (by decide) many, ← fewer] at hfull
      omega
    obtain ⟨more, count', R', drained, fetches, length', counted', reached⟩ :=
      ih after (by omega) (known + count) rest
    refine ⟨_ :: more, count + count', R', ?_, .cons served ingested fetches, ?_, ?_, reached⟩
    · rw [drain_of_page served ingested, if_neg (by omega), drained, Nat.add_assoc]
    · rw [List.length_cons, length']
    · omega

/-! ## Agreement -/

/-- A replica that has taken in all events knows what the authority knows. -/
theorem Heard.agrees (tells : A.Tells H all news) (heard : R.Heard H all pages)
    (reached : R.syncCursor = all.length) (d : Digest) :
    R.ledger.roots.isKnown d = A.ledger.roots.isKnown d ∧
      R.ledger.roots.timestamp? d = A.ledger.roots.timestamp? d := by
  have learned := heard.learned
  rw [reached, List.take_length, lessonsOf, tells.updates, List.map_map] at learned
  -- what was learned was announced, and recorded with the same timestamp
  have same {t : UInt64} (ht : R.ledger.roots.timestamp? d = some t) :
      A.ledger.roots.timestamp? d = some t := by
    obtain ⟨p, hp, rfl, rfl⟩ := learned.timestamp ht
    obtain ⟨n, hn, rfl⟩ := List.mem_map.1 hp
    obtain ⟨recorded, dated⟩ := tells.records.record? hn
    exact (RootStore.timestamp?_of_record? recorded).trans (congrArg some dated.symm)
  have known : R.ledger.roots.isKnown d = A.ledger.roots.isKnown d := by
    rw [Bool.eq_iff_iff, learned.isKnown, tells.records.isKnown tells.role]
    constructor
    · rintro ⟨p, hp, hash⟩
      obtain ⟨n, hn, rfl⟩ := List.mem_map.1 hp
      exact ⟨n, hn, hash⟩
    · rintro ⟨n, hn, hash⟩
      exact ⟨_, List.mem_map_of_mem hn, hash⟩
  refine ⟨known, Option.ext fun t => ⟨same, fun ht => ?_⟩⟩
  have knows := (RootStore.isKnown_iff_timestamp _ d).2 ⟨t, ht⟩
  rw [← known] at knows
  obtain ⟨t', ht'⟩ := (RootStore.isKnown_iff_timestamp _ d).1 knows
  rw [ht', ← same ht', ht]

end Node

/-! ## At any time -/

section

variable {H : NodeHasher} {states : List Node} {pages : List EventBatch} {A R : Node}

/-- At any time there is a history: the authority tells of it now and told of a part of it earlier,
    and the replica has heard it up to its cursor. -/
theorem Following.exists_history (following : Following H states pages A R) :
    ∃ all news, A.Tells H all news ∧ R.Heard H all pages ∧
      ∀ A₀ ∈ states, ∃ earlier, earlier <+: all ∧ A₀.ledger.journal.Keeps earlier := by
  induction following with
  | start authority replica role role' =>
    have tells := Node.tells_create authority role
    refine ⟨[], [], tells, Node.heard_create replica role', fun A₀ hA₀ => ?_⟩
    obtain rfl := List.mem_singleton.1 hA₀
    exact ⟨[], List.prefix_rfl, tells.keeps⟩
  | authority _ acts ih =>
    obtain ⟨all, news, tells, heard, past⟩ := ih
    obtain ⟨events, told, tells⟩ := tells.acts acts
    refine ⟨all ++ events, news ++ told, tells, heard.append, fun A₀ hA₀ => ?_⟩
    rcases List.mem_append.1 hA₀ with old | new
    · obtain ⟨earlier, before, keeps⟩ := past A₀ old
      exact ⟨earlier, before.trans (List.prefix_append all events), keeps⟩
    · obtain rfl := List.mem_singleton.1 new
      exact ⟨_, List.prefix_rfl, tells.keeps⟩
  | replica _ acts ih =>
    obtain ⟨all, news, tells, heard, past⟩ := ih
    exact ⟨all, news, tells, heard.acts acts, past⟩
  | fetch _ fetches ih =>
    obtain ⟨all, news, tells, heard, past⟩ := ih
    exact ⟨all, news, tells, (heard.fetches tells fetches).1, past⟩

/-- **Following reaches the head and loses nothing.** A replica has learned from an authority only,
    by calls that may have ended early, while both did whatever else they do. Unless its cursor has
    been forgotten, a call ends after the pages that there are: its answer is the number of global
    exit roots that have become known, the cursor is at the head, and the replica knows what the
    authority knows, with the same timestamps. If the cursor has been forgotten, the call fails and
    changes nothing. However far a call gets, the cursor does not go back, each cursor before it has
    been taken in once, and what the authority's journal has ever told at such a cursor is what was
    taken in. -/
theorem sync_reaches_head (following : Following H states pages A R) :
    (A.ledger.journal.oldest ≤ R.syncCursor → ∃ more count R',
      R.syncEvents (some A) = (.ok count, R') ∧ A.Fetches R more R' ∧
        more.length = (A.ledger.journal.head - R.syncCursor) / Node.syncPageSize + 1 ∧
        R'.knownCount = R.knownCount + count ∧ R'.syncCursor = A.ledger.journal.head ∧
        ∀ d, R'.ledger.roots.isKnown d = A.ledger.roots.isKnown d ∧
          R'.ledger.roots.timestamp? d = A.ledger.roots.timestamp? d) ∧
    (R.syncCursor < A.ledger.journal.oldest → R.syncEvents (some A) =
      (.error (.authorityRefused (.source (.cursorPruned R.syncCursor A.ledger.journal.oldest))),
        R)) ∧
    (∀ more R', A.Fetches R more R' → R.syncCursor ≤ R'.syncCursor ∧
      (entriesOf (pages ++ more)).map (·.cursor) = List.range R'.syncCursor ∧
      ∀ A₀ ∈ states, ∀ cursor e, A₀.ledger.journal.event? cursor = some e →
        cursor < R'.syncCursor → ⟨cursor, e⟩ ∈ entriesOf (pages ++ more)) := by
  obtain ⟨all, news, tells, heard, past⟩ := following.exists_history
  refine ⟨fun kept => ?_, fun forgotten => ?_, fun more R' fetches => ?_⟩
  · obtain ⟨more, count, R', drained, fetches, length, counted, reached⟩ :=
      heard.drain tells kept 0
    rw [Nat.zero_add] at drained
    rw [tells.keeps.head]
    have final := (heard.fetches tells fetches).1
    exact ⟨more, count, R', drained, fetches, length, counted, reached,
      final.agrees tells reached⟩
  · exact Node.drain_of_error (tells.eventsPage_of_lt forgotten)
  · obtain ⟨final, later⟩ := heard.fetches tells fetches
    have cursor := final.cursor
    refine ⟨later, ?_, fun A₀ hA₀ k e told below => ?_⟩
    · rw [final.entries, cursors_entriesFrom, List.length_take_of_le cursor, List.range_eq_range']
    · obtain ⟨earlier, ⟨rest, rfl⟩, keeps⟩ := past A₀ hA₀
      have place := keeps.event? told
      obtain ⟨inside, -⟩ := List.getElem?_eq_some_iff.1 place
      rw [final.entries, mem_entriesFrom_zero, List.getElem?_take_of_lt below,
        List.getElem?_append_left inside]
      exact place

end

/-- Network 1 follows network 0, which has folded in a rollup's root, and then knows the global exit
    root that came of it. -/
theorem sync_reaches_head_first : ∃ (states : List Node) (A R R' : Node) (count : Nat) (d : Digest),
    Following .keccak states [] A R ∧ R.syncEvents (some A) = (.ok count, R') ∧
      R'.syncCursor = A.ledger.journal.head ∧ A.ledger.roots.isKnown d = true ∧
      R'.ledger.roots.isKnown d = true := by
  let bridge : Address := ⟨List.replicate 20 0xb0, rfl⟩
  let s : Settings :=
    { (default : Settings) with aggregatorAuthority := true, bridgeAddress := bridge }
  let s' : Settings := { (default : Settings) with networkId := 1, bridgeAddress := bridge }
  obtain ⟨A, created⟩ := Node.exists_create .keccak (s := s)
    (LedgerConfig.validate_authority 0 (by decide)) rfl
  obtain ⟨R, created'⟩ := Node.exists_create .keccak (s := s')
    (LedgerConfig.validate_replica (by decide) (by decide)) rfl
  obtain ⟨hasher, genesis, -⟩ := Node.create_eq_ok created
  obtain ⟨-, -, cursor⟩ := Node.create_eq_ok created'
  let fold : NodeCall := .updateRollupExitRoot 0 0 .zero
  have acts : A.Acts (fun _ => True) (fold.run A) := .operation trivial
  have following : Following .keccak [A, fold.run A] [] (fold.run A) R :=
    .authority (.start created created' rfl rfl) acts
  -- it knows a global exit root, and has forgotten nothing
  obtain ⟨told, after, a, hrun, roots, -, known, -⟩ :=
    exists_updateRollupExitRoot (D := A.deployment) (s := A.bridge) (a := .empty) .zero
      (A.drawBlock 0).1 (congrArg Ledger.roots genesis) rfl
      (show (0 : UInt32).toNat < maxTrackedRollups by decide)
  have ran : (Call.updateRollupExitRoot 0 .zero (A.drawBlock 0).1).run A.deployment A.bridge =
      .ok (.published (some told)) after := LedgerM.map_eq_ok.2 ⟨told, hrun, rfl⟩
  have folded : (fold.run A).ledger = after.ledger := by
    rw [(NodeCall.called (c := fold) rfl).ledger, Step.after, ran]
  have kept : (fold.run A).ledger.journal.oldest ≤ R.syncCursor := by
    obtain ⟨-, moves, chain⟩ := acts.exists_chain
    rw [chain.journal, genesis, Journal.oldest_pushAll rfl]
    exact Nat.zero_le _
  obtain ⟨-, count, R', synced, -, -, -, reached, agrees⟩ := (sync_reaches_head following).1 kept
  rw [← RootStore.isKnown, ← roots, ← folded] at known
  refine ⟨_, fold.run A, R, R', count, _, following, synced, reached, known, ?_⟩
  rw [(agrees _).1]
  exact known

end ExitBridge
