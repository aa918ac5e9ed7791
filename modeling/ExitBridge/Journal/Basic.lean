/-
  The journal of a ledger.

  Events get consecutive cursors from zero. A journal may keep only its newest events; the cursors
  of those it keeps do not change, and reading from before them is an error.

  * `Journal.push`: adds an event and forgets the oldest if there are too many; `Journal.append`
    also tells its cursor.
  * `Journal.since`: a page of events from a cursor on, and the cursor to go on from.
-/
import ExitBridge.Journal.Event

namespace ExitBridge

/-- Why a page of events cannot be read. -/
inductive SourceError where
  | unavailable (reason : String)
  | decode (reason : String)
  | cursorAhead (cursor head : Nat)
  | cursorPruned (cursor oldest : Nat)
  deriving DecidableEq, Inhabited

namespace SourceError

/-- The wording of an error. -/
def message : SourceError → String
  | unavailable reason => s!"Event source unavailable: {reason}"
  | decode reason => s!"Failed to decode events: {reason}"
  | cursorAhead cursor head => s!"Cursor {cursor} is ahead of the source head {head}"
  | cursorPruned cursor oldest =>
    s!"Cursor {cursor} was pruned; oldest retained event is {oldest}"

/-- The name of an error's kind. -/
def name : SourceError → String
  | unavailable .. => "Unavailable"
  | decode .. => "Decode"
  | cursorAhead .. => "CursorAhead"
  | cursorPruned .. => "CursorPruned"

end SourceError

/-- An event and its cursor. -/
structure JournalEntry where
  cursor : Nat
  event : Event
  deriving DecidableEq, Inhabited

/-- A page of events, and the cursor to go on from. -/
structure EventBatch where
  entries : List JournalEntry
  nextCursor : Nat
  deriving DecidableEq, Inhabited

/-- The events of a ledger, oldest first, without the forgotten ones. -/
structure Journal where
  events : Array Event
  /-- The cursor of the first event that is kept. -/
  oldest : Nat
  retention : Option Nat
  deriving Inhabited

namespace Journal

/-- The empty journal; a retention counts as at least one. -/
def empty (retention : Option Nat) : Journal := ⟨#[], 0, retention.map (max 1)⟩

/-- The cursor that the next event gets. -/
def head (j : Journal) : Nat := j.oldest + j.events.size

/-- Adds an event, and forgets the oldest ones beyond the retention. -/
def push (j : Journal) (e : Event) : Journal :=
  let events := j.events.push e
  match j.retention with
  | none => { j with events := events }
  | some kept =>
    let excess := events.size - kept
    { j with events := events.extract excess, oldest := j.oldest + excess }

/-- Adds an event: its cursor, and the journal afterwards. -/
def append (j : Journal) (e : Event) : Nat × Journal := (j.head, j.push e)

/-- Up to `limit` events from a cursor on. -/
def since (j : Journal) (start limit : Nat) : Except SourceError EventBatch :=
  if j.head < start then .error (.cursorAhead start j.head)
  else if start < j.oldest then .error (.cursorPruned start j.oldest)
  else
    let page := (j.events.toList.drop (start - j.oldest)).take limit
    let entries := (page.zipIdx start).map fun (e, cursor) => ⟨cursor, e⟩
    .ok ⟨entries, start + entries.length⟩

/-- A page ends behind its last event, and no later than the journal. -/
theorem nextCursor_of_since {j : Journal} {start limit : Nat} {batch : EventBatch}
    (h : j.since start limit = .ok batch) :
    batch.nextCursor = start + batch.entries.length ∧ batch.nextCursor ≤ j.head := by
  unfold since at h
  split at h
  · simp at h
  · split at h
    · simp at h
    · simp only [Except.ok.injEq] at h
      subst h
      simp only [head, List.length_map, List.length_zipIdx, List.length_take, List.length_drop,
        Array.length_toList, true_and] at *
      omega

end Journal

end ExitBridge
