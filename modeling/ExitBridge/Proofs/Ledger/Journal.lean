/-
  Journals that forget.

  A bounded journal forgets its oldest events, so what it says of the past is said over the history
  of all events so far, of which it keeps an end. Cursors are places in the history, and pages are
  parts of it.

  * `Journal.Keeps`: the journal keeps an end of a history; `Keeps.pushAll`: and goes on to do so.
  * `entriesFrom`: events with their cursors; `Keeps.since`, `Keeps.since_of_lt`: what a page is.
  * `Journal.event?`: the event at a cursor, unless it is forgotten.
-/
import ExitBridge.Proofs.Ledger.Move

namespace ExitBridge

/-! ## Events with their cursors -/

/-- Consecutive events from a cursor on. -/
def entriesFrom (start : Nat) (events : List Event) : List JournalEntry :=
  (events.zipIdx start).map fun (e, cursor) => ⟨cursor, e⟩

section

variable {start k : Nat} {e : Event} {events more : List Event}

@[simp] theorem length_entriesFrom : (entriesFrom start events).length = events.length := by
  simp [entriesFrom]

@[simp] theorem events_entriesFrom : (entriesFrom start events).map (·.event) = events := by
  simp [entriesFrom, Function.comp_def]

@[simp] theorem cursors_entriesFrom :
    (entriesFrom start events).map (·.cursor) = List.range' start events.length := by
  simp [entriesFrom, Function.comp_def]

theorem entriesFrom_append : entriesFrom start (events ++ more) =
    entriesFrom start events ++ entriesFrom (start + events.length) more := by
  rw [entriesFrom, List.zipIdx_append, List.map_append]
  rfl

theorem mem_entriesFrom_zero : ⟨k, e⟩ ∈ entriesFrom 0 events ↔ events[k]? = some e := by
  simp [entriesFrom, List.mem_zipIdx_iff_getElem?, eq_comm]

end

/-! ## Histories -/

namespace Journal

/-- The event at a cursor, unless it is forgotten. -/
def event? (j : Journal) (cursor : Nat) : Option Event :=
  if cursor < j.oldest then none else j.events[cursor - j.oldest]?

/-- Of all events so far, the journal keeps those from its oldest cursor on. -/
structure Keeps (all : List Event) (j : Journal) : Prop where
  oldest : j.oldest ≤ all.length
  events : j.events.toList = all.drop j.oldest

variable {j : Journal} {all more : List Event} {e : Event} {start cursor : Nat}

/-- A new event is the last one, and a number of the oldest are forgotten. -/
theorem exists_push (j : Journal) (e : Event) : ∃ excess,
    (j.push e).events.toList = (j.events.toList ++ [e]).drop excess ∧
      (j.push e).oldest = j.oldest + excess ∧ excess ≤ j.events.size + 1 := by
  rw [push]
  split
  · exact ⟨0, by simp, rfl, Nat.zero_le _⟩
  · rename_i kept bounded
    refine ⟨(j.events.push e).size - kept, ?_, rfl, ?_⟩
    · simp only [Array.toList_extract, List.extract_eq_take_drop, Array.toList_push]
      exact List.take_of_length_le (by simp)
    · simp only [Array.size_push]
      omega

theorem oldest_pushAll (unbounded : j.retention = none) : (j.pushAll more).oldest = j.oldest := by
  induction more generalizing j with
  | nil => rfl
  | cons e more ih =>
    have pushed : (j.push e).oldest = j.oldest := by
      rw [push, unbounded]
    exact (ih ((retention_push j e).trans unbounded)).trans pushed

theorem keeps_empty (retention : Option Nat) : (empty retention).Keeps [] where
  oldest := Nat.le_refl 0
  events := rfl

namespace Keeps

theorem size (h : j.Keeps all) : j.events.size = all.length - j.oldest := by
  rw [← Array.length_toList, h.events, List.length_drop]

theorem head (h : j.Keeps all) : j.head = all.length := by
  have oldest := h.oldest
  have size := h.size
  rw [Journal.head]
  omega

theorem event? (h : j.Keeps all) (he : j.event? cursor = some e) : all[cursor]? = some e := by
  rw [Journal.event?] at he
  split at he
  · cases he
  · rw [← Array.getElem?_toList, h.events, List.getElem?_drop] at he
    rw [← he]
    congr 1
    omega

theorem push (h : j.Keeps all) : (j.push e).Keeps (all ++ [e]) := by
  have oldest := h.oldest
  have size := h.size
  obtain ⟨excess, events, forgets, few⟩ := j.exists_push e
  constructor
  · simp only [forgets, List.length_append, List.length_singleton]
    omega
  · rw [events, forgets, h.events, ← List.drop_append_of_le_length oldest, List.drop_drop]

theorem pushAll (h : j.Keeps all) : (j.pushAll more).Keeps (all ++ more) := by
  induction more generalizing j all with
  | nil => simpa using h
  | cons e more ih =>
    rw [List.append_cons]
    exact ih h.push

/-! ## Pages -/

theorem since (h : j.Keeps all) (limit : Nat) (kept : j.oldest ≤ start)
    (reached : start ≤ all.length) :
    j.since start limit = .ok ⟨entriesFrom start ((all.drop start).take limit),
      start + ((all.drop start).take limit).length⟩ := by
  have inside : ¬ j.head < start := by
    rw [h.head]
    omega
  have rest : j.events.toList.drop (start - j.oldest) = all.drop start := by
    rw [h.events, List.drop_drop]
    congr 1
    omega
  rw [Journal.since, if_neg inside, if_neg (Nat.not_lt.2 kept), rest]
  simp only [entriesFrom, List.length_map, List.length_zipIdx]

theorem since_of_lt (h : j.Keeps all) (limit : Nat) (forgotten : start < j.oldest) :
    j.since start limit = .error (.cursorPruned start j.oldest) := by
  have oldest := h.oldest
  have inside : ¬ j.head < start := by
    rw [h.head]
    omega
  rw [Journal.since, if_neg inside, if_pos forgotten]

end Keeps

end Journal

theorem Ledger.Chain.keeps {D : Deployment} {l l' : Ledger} {moves : List Move} {all : List Event}
    (h : l.Chain D moves l') (keeps : l.journal.Keeps all) :
    l'.journal.Keeps (all ++ moves.flatMap Move.events) := by
  rw [h.journal]
  exact keeps.pushAll

end ExitBridge
