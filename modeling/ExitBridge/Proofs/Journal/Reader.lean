/-
  A journal and those who read it.

  The cursor of an event is its place among all events pushed so far, and a page is a part of the
  list of these. So whoever goes on behind each page has read a part of the list without a gap or a
  repeat, whatever is pushed between the pages; only a journal that has forgotten what comes next
  refuses another page.

  * `entriesBetween`: the part of a history between two cursors.
  * `Journal.appendEach`: events pushed one after another; `Keeps.cursors_appendEach`: the cursors
    they get. `retained`, `size_pushAll`: how many of them are kept.
  * `Keeps.since_eq`: the answer from any cursor.
  * `Reader`, `Reading`: a reader, and what happens while it reads. `Reader.Follows`: what it has
    read; `Follows.run`: at any time. `Follows.progress`: it gets on by an event with each page.
  * `journal_refines_list`: any pushes, any page, and any reader.
-/
import ExitBridge.Proofs.Ledger.Journal

namespace ExitBridge

/-! ## Parts of a history -/

/-- The entries of a history with the cursors from `start` on and before `stop`. -/
def entriesBetween (all : List Event) (start stop : Nat) : List JournalEntry :=
  ((entriesFrom 0 all).take stop).drop start

section

variable {all events : List Event} {start mid stop : Nat}

theorem getElem?_entriesFrom (k : Nat) :
    (entriesFrom start events)[k]? = events[k]?.map fun e => ⟨start + k, e⟩ := by
  simp only [entriesFrom, List.getElem?_map, List.getElem?_zipIdx, Option.map_map]
  rfl

theorem entriesBetween_eq :
    entriesBetween all start stop = entriesFrom start ((all.drop start).take (stop - start)) := by
  refine List.ext_getElem? fun k => ?_
  rw [entriesBetween, List.getElem?_drop, List.getElem?_take, getElem?_entriesFrom,
    getElem?_entriesFrom, List.getElem?_take, List.getElem?_drop, Nat.zero_add]
  by_cases inside : start + k < stop
  · rw [if_pos inside, if_pos (by omega)]
  · rw [if_neg inside, if_neg (by omega), Option.map_none]

@[simp] theorem entriesBetween_self : entriesBetween all start start = [] :=
  List.drop_take_self

theorem entriesBetween_append (h : start ≤ mid) (h' : mid ≤ stop) :
    entriesBetween all start mid ++ entriesBetween all mid stop = entriesBetween all start stop := by
  have first : (entriesFrom 0 all).take mid = ((entriesFrom 0 all).take stop).take mid := by
    rw [List.take_take, Nat.min_eq_left h']
  have second (l : List JournalEntry) : l.drop mid = (l.drop start).drop (mid - start) := by
    rw [List.drop_drop, Nat.add_sub_cancel' h]
  rw [entriesBetween, entriesBetween, entriesBetween, first, second, List.drop_take,
    List.take_append_drop]

/-- What is pushed later is no part of what was there. -/
theorem entriesBetween_of_append (h : stop ≤ all.length) :
    entriesBetween (all ++ events) start stop = entriesBetween all start stop := by
  rw [entriesBetween, entriesBetween, entriesFrom_append,
    List.take_append_of_le_length (by rwa [length_entriesFrom])]

end

/-! ## Pushing -/

namespace Journal

/-- Pushes events one after another: their cursors, and the journal afterwards. -/
def appendEach : Journal → List Event → List Nat × Journal
  | j, [] => ([], j)
  | j, e :: later =>
    let (cursor, j) := j.append e
    let (cursors, j) := appendEach j later
    (cursor :: cursors, j)

/-- Of a number of events, so many are kept under a retention, which counts as at least one. -/
def retained (retention : Option Nat) (count : Nat) : Nat :=
  match retention with
  | none => count
  | some limit => min count (max 1 limit)

variable {j : Journal} {all more : List Event} {start limit : Nat}

theorem appendEach_eq_pushAll : (j.appendEach more).2 = j.pushAll more := by
  induction more generalizing j with
  | nil => rfl
  | cons e more ih => exact ih

theorem Keeps.cursors_appendEach (h : j.Keeps all) :
    (j.appendEach more).1 = List.range' all.length more.length := by
  induction more generalizing j all with
  | nil => rfl
  | cons e more ih =>
    have rest := ih (h.push (e := e))
    rw [List.length_append, List.length_singleton] at rest
    rw [List.length_cons, List.range'_succ, ← rest, ← h.head]
    rfl

theorem size_push (e : Event) : (j.push e).events.size =
    match j.retention with
    | none => j.events.size + 1
    | some kept => min (j.events.size + 1) kept := by
  rw [push]
  cases j.retention with
  | none => simp
  | some kept => simp; omega

theorem size_pushAll {retention : Option Nat} (bounded : j.retention = retention.map (max 1))
    {count : Nat} (size : j.events.size = retained retention count) :
    (j.pushAll more).events.size = retained retention (count + more.length) := by
  induction more generalizing j count with
  | nil => exact size
  | cons e more ih =>
    have pushed : (j.push e).events.size = retained retention (count + 1) := by
      rw [size_push, bounded, size]
      cases retention with
      | none => rfl
      | some limit =>
        simp only [Option.map_some, retained]
        omega
    rw [List.length_cons, Nat.add_comm more.length, ← Nat.add_assoc]
    exact ih ((retention_push j e).trans bounded) pushed

/-! ## Pages -/

/-- **The answer from any cursor:** a part of the history, unless the cursor lies behind its end or
    has been forgotten. -/
theorem Keeps.since_eq (h : j.Keeps all) (start limit : Nat) : j.since start limit =
    if all.length < start then .error (.cursorAhead start all.length)
    else if start < j.oldest then .error (.cursorPruned start j.oldest)
    else .ok ⟨entriesBetween all start (min (start + limit) all.length),
      min (start + limit) all.length⟩ := by
  split
  · rename_i ahead
    rw [Journal.since, h.head, if_pos ahead]
  · rename_i reached
    split
    · rename_i forgotten
      exact h.since_of_lt limit forgotten
    · rename_i kept
      have page : (all.drop start).take (min (start + limit) all.length - start) =
          (all.drop start).take limit := by
        rw [List.take_eq_take_iff, List.length_drop]
        omega
      rw [h.since limit (Nat.not_lt.1 kept) (Nat.not_lt.1 reached), entriesBetween_eq, page,
        List.length_take, List.length_drop]
      congr 2
      omega

end Journal

/-! ## Reading -/

/-- One who reads a journal: the cursor to go on from, what has been read, and the last refusal. -/
structure Reader where
  cursor : Nat
  read : List JournalEntry
  refusal : Option SourceError

/-- What happens while a journal is read. -/
inductive Reading where
  | push (e : Event)
  | fetch (limit : Nat)

/-- A reader that starts at a cursor. -/
def Reader.startingAt (cursor : Nat) : Reader := ⟨cursor, [], none⟩

/-- The reader asks for a page and goes on behind it. -/
def Reader.fetch (r : Reader) (j : Journal) (limit : Nat) : Reader :=
  match j.since r.cursor limit with
  | .ok page => { r with cursor := page.nextCursor, read := r.read ++ page.entries }
  | .error e => { r with refusal := some e }

namespace Reading

/-- The journal and its reader after something has happened. -/
def step (s : Journal × Reader) : Reading → Journal × Reader
  | push e => (s.1.push e, s.2)
  | fetch limit => (s.1, s.2.fetch s.1 limit)

/-- The journal and its reader after all that has happened. -/
def run (s : Journal × Reader) (schedule : List Reading) : Journal × Reader :=
  schedule.foldl step s

/-- The event that is pushed. -/
def event? : Reading → Option Event
  | push e => some e
  | fetch _ => none

/-- The number of pages that are asked for. -/
def fetches (schedule : List Reading) : Nat := schedule.countP (·.event?.isNone)

end Reading

namespace Reader

/-- From its start on, the reader has read the events of the history up to its cursor, each once and
    in order; it was refused only because the event at its cursor had been forgotten. -/
structure Follows (start : Nat) (all : List Event) (j : Journal) (r : Reader) : Prop where
  keeps : j.Keeps all
  later : start ≤ r.cursor
  cursor : r.cursor ≤ all.length
  read : r.read = entriesBetween all start r.cursor
  refusal : ∀ e, r.refusal = some e →
    ∃ oldest, e = .cursorPruned r.cursor oldest ∧ r.cursor < oldest ∧ oldest ≤ j.oldest

namespace Follows

variable {start limit : Nat} {all : List Event} {j : Journal} {r : Reader} {x : Reading}
  {schedule : List Reading}

theorem startingAt (keeps : j.Keeps all) (reached : start ≤ all.length) :
    (startingAt start).Follows start all j :=
  ⟨keeps, Nat.le_refl _, reached, entriesBetween_self.symm, nofun⟩

theorem push (h : r.Follows start all j) (e : Event) : r.Follows start (all ++ [e]) (j.push e) where
  keeps := h.keeps.push
  later := h.later
  cursor := by
    rw [List.length_append]
    exact Nat.le_add_right_of_le h.cursor
  read := by rw [entriesBetween_of_append h.cursor, h.read]
  refusal := by
    intro e' refused
    obtain ⟨oldest, rfl, forgotten, before⟩ := h.refusal e' refused
    obtain ⟨excess, -, forgets, -⟩ := j.exists_push e
    exact ⟨oldest, rfl, forgotten, by omega⟩

/-- How it goes when the reader asks for a page: it is refused if the event at its cursor has been
    forgotten, and otherwise reads on. -/
theorem fetch_cases (h : r.Follows start all j) (limit : Nat) :
    (r.cursor < j.oldest ∧
      r.fetch j limit = { r with refusal := some (.cursorPruned r.cursor j.oldest) }) ∨
    (j.oldest ≤ r.cursor ∧ r.fetch j limit = { r with
      cursor := min (r.cursor + limit) all.length
      read := r.read ++ entriesBetween all r.cursor (min (r.cursor + limit) all.length) }) := by
  have page := h.keeps.since_eq r.cursor limit
  rw [if_neg (Nat.not_lt.2 h.cursor)] at page
  split at page
  · rename_i forgotten
    exact .inl ⟨forgotten, by rw [Reader.fetch, page]⟩
  · rename_i kept
    exact .inr ⟨Nat.not_lt.1 kept, by rw [Reader.fetch, page]⟩

theorem fetch (h : r.Follows start all j) (limit : Nat) :
    (r.fetch j limit).Follows start all j := by
  have later := h.later
  have cursor := h.cursor
  rcases h.fetch_cases limit with ⟨forgotten, refused⟩ | ⟨kept, read⟩
  · rw [refused]
    refine ⟨h.keeps, later, cursor, h.read, ?_⟩
    rintro _ ⟨⟩
    exact ⟨j.oldest, rfl, forgotten, Nat.le_refl _⟩
  · rw [read]
    refine ⟨h.keeps, ?_, Nat.min_le_right _ _, ?_, ?_⟩
    · exact Nat.le_min.2 ⟨by omega, later.trans cursor⟩
    · rw [h.read, entriesBetween_append later (Nat.le_min.2 ⟨Nat.le_add_right _ _, cursor⟩)]
    · -- it has not been refused, since then it would be again
      intro e refused
      obtain ⟨oldest, -, forgotten, before⟩ := h.refusal e refused
      omega

theorem step (h : r.Follows start all j) (x : Reading) :
    (x.step (j, r)).2.Follows start (all ++ x.event?.toList) (x.step (j, r)).1 := by
  cases x with
  | push e => exact h.push e
  | fetch limit =>
    rw [Reading.event?, Option.toList_none, List.append_nil]
    exact h.fetch limit

/-- **At any time** the reader has read a part of the history. -/
theorem run (h : r.Follows start all j) (schedule : List Reading) :
    (Reading.run (j, r) schedule).2.Follows start (all ++ schedule.filterMap Reading.event?)
      (Reading.run (j, r) schedule).1 := by
  induction schedule generalizing j r all with
  | nil => rwa [List.filterMap_nil, List.append_nil]
  | cons x schedule ih =>
    have events : (x :: schedule).filterMap Reading.event? =
        x.event?.toList ++ schedule.filterMap Reading.event? := by
      cases x <;> rfl
    have next := ih (h.step x)
    rwa [List.append_assoc, ← events] at next

/-! ### Progress -/

theorem refusal_of_run (going : (Reading.run (j, r) schedule).2.refusal = none) :
    r.refusal = none := by
  induction schedule generalizing j r with
  | nil => exact going
  | cons x schedule ih =>
    have next : (x.step (j, r)).2.refusal = none := ih going
    cases x with
    | push e => exact next
    | fetch limit =>
      rw [Reading.step, Reader.fetch] at next
      split at next
      · exact next
      · cases next

/-- **The reader gets on:** unless it is refused, it reads an event with each page that it asks for,
    until it has read all that were there. -/
theorem progress (h : r.Follows start all j) (schedule : List Reading)
    (asks : ∀ limit, .fetch limit ∈ schedule → 0 < limit)
    (going : (Reading.run (j, r) schedule).2.refusal = none) {count : Nat}
    (there : count ≤ all.length) : min (r.cursor + Reading.fetches schedule) count ≤
      (Reading.run (j, r) schedule).2.cursor := by
  induction schedule generalizing j r all with
  | nil => exact Nat.min_le_left _ _
  | cons x schedule ih =>
    have later (limit : Nat) (hlimit : .fetch limit ∈ schedule) : 0 < limit :=
      asks limit (List.mem_cons_of_mem _ hlimit)
    have rest := ih (h.step x) later going (by rw [List.length_append]; omega)
    refine Nat.le_trans ?_ rest
    cases x with
    | push e => exact Nat.le_refl _
    | fetch limit =>
      have some := asks limit List.mem_cons_self
      have pages : Reading.fetches (.fetch limit :: schedule) = Reading.fetches schedule + 1 :=
        List.countP_cons_of_pos rfl
      rcases h.fetch_cases limit with ⟨-, refused⟩ | ⟨-, read⟩
      · have kept : (r.fetch j limit).refusal = none := refusal_of_run going
        rw [refused] at kept
        cases kept
      · rw [pages, Reading.step, read]
        dsimp only
        omega

end Follows

end Reader

/-- **A journal is a list, and its readers miss nothing.** Whatever is pushed to a new journal, the
    cursors are the places in the list of all events, and the newest events are kept, as many as the
    retention says. The page from a cursor is a part of that list, with the cursor to go on from; a
    cursor behind the end is refused as such, and so is one before the oldest event that is kept.
    A reader that starts at any other cursor and goes on behind each page has, whatever is pushed in
    between, read the events from its start up to its cursor, each once and in order. It is refused
    only when the event at its cursor has been forgotten; otherwise it reads at least one event with
    each page, as long as there are any. -/
theorem journal_refines_list (retention : Option Nat) (events : List Event) :
    let (cursors, j) := (Journal.empty retention).appendEach events
    cursors = List.range events.length ∧ j.head = events.length ∧
    j.events.size = Journal.retained retention events.length ∧
    j.oldest = events.length - Journal.retained retention events.length ∧
    (∀ start limit, j.since start limit =
      if events.length < start then .error (.cursorAhead start events.length)
      else if start < j.oldest then .error (.cursorPruned start j.oldest)
      else .ok ⟨entriesBetween events start (min (start + limit) events.length),
        min (start + limit) events.length⟩) ∧
    ∀ start, j.oldest ≤ start → start ≤ j.head → ∀ before after : List Reading,
      let (j₁, r₁) := Reading.run (j, .startingAt start) before
      let (j₂, r₂) := Reading.run (j₁, r₁) after
      r₂.read = entriesBetween (events ++ (before ++ after).filterMap Reading.event?)
        start r₂.cursor ∧
      start ≤ r₂.cursor ∧ r₂.cursor ≤ j₂.head ∧
      (∀ e, r₂.refusal = some e → ∃ oldest, e = .cursorPruned r₂.cursor oldest ∧
        r₂.cursor < oldest ∧ oldest ≤ j₂.oldest) ∧
      ((∀ limit, .fetch limit ∈ after → 0 < limit) → r₂.refusal = none →
        min (r₁.cursor + Reading.fetches after) j₁.head ≤ r₂.cursor) := by
  have pushed : ((Journal.empty retention).pushAll events).Keeps ([] ++ events) :=
    (Journal.keeps_empty retention).pushAll
  have cursors : ((Journal.empty retention).appendEach events).1 = List.range' 0 events.length :=
    (Journal.keeps_empty retention).cursors_appendEach
  have fresh : (Journal.empty retention).events.size = Journal.retained retention 0 := by
    cases retention <;> simp [Journal.retained, Journal.empty]
  have size : ((Journal.empty retention).pushAll events).events.size =
      Journal.retained retention (0 + events.length) := Journal.size_pushAll rfl fresh
  rw [← Journal.appendEach_eq_pushAll] at pushed size
  generalize (Journal.empty retention).appendEach events = answer at pushed cursors size ⊢
  obtain ⟨told, j⟩ := answer
  simp only [List.nil_append, Nat.zero_add] at pushed cursors size
  refine ⟨?_, pushed.head, size, ?_, pushed.since_eq, fun start kept reached before after => ?_⟩
  · rw [List.range_eq_range', cursors]
  · have kept := pushed.size
    have oldest := pushed.oldest
    omega
  · rw [pushed.head] at reached
    have first := (Reader.Follows.startingAt pushed reached).run before
    generalize Reading.run (j, .startingAt start) before = middle at first ⊢
    obtain ⟨j₁, r₁⟩ := middle
    dsimp only at first ⊢
    have second := first.run after
    have gets := first.progress after
    generalize Reading.run (j₁, r₁) after = final at second gets ⊢
    obtain ⟨j₂, r₂⟩ := final
    rw [List.append_assoc, ← List.filterMap_append] at second
    refine ⟨second.read, second.later, ?_, second.refusal, fun asks going => ?_⟩
    · rw [second.keeps.head]
      exact second.cursor
    · rw [first.keeps.head]
      exact gets asks going (Nat.le_refl _)

end ExitBridge
