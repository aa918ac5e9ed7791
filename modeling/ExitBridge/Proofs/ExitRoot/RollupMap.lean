/-
  The rollups' roots as a map.

  Roots are set one after another, at any indexes; beyond the tracked rollups a setting is refused.
  All that is left of a sequence of settings is the root that was last set at each index: the common
  root is that of the plain tree of this map, in which every other leaf is zero. Nothing shows of
  the rows of zeros between the indexes, or of the order in which the indexes were set.

  * `RollupRoots.setEach`: settings one after another, and their answers.
  * `lastSet?`, `assigned`: the root last set at an index.
  * `mapNode`, `mapRoot`: the plain tree of a map from indexes to leaves.
  * `RollupRoots.Assigns`: what the stored roots have to do with the settings so far.
  * `setEach_refines_map`: all sequences of settings.
-/
import ExitBridge.Proofs.ExitRoot.Rollups
import ExitBridge.Proofs.Merkle.Past

namespace ExitBridge

/-! ## The plain tree of a map -/

/-- The root of the subtree of a height at a position, of the tree with these leaves. -/
def mapNode (H : NodeHasher) (leaf : Nat → Digest) : (height position : Nat) → Digest
  | 0, position => leaf position
  | height + 1, position =>
    H.pair (mapNode H leaf height (position * 2)) (mapNode H leaf height (position * 2 + 1))

/-- The root of the tree of depth 32 with these leaves. -/
def mapRoot (H : NodeHasher) (leaf : Nat → Digest) : Digest := mapNode H leaf treeDepth 0

/-- A list stands for the map of its items, which is zero behind its end. -/
theorem plainNode_eq_mapNode (H : NodeHasher) (leaves : List Digest) (height position : Nat) :
    plainNode H leaves height position = mapNode H (leaves.getD · .zero) height position := by
  induction height generalizing position with
  | zero => rfl
  | succ height ih => rw [plainNode_succ, mapNode, ih, ih]

namespace RollupRoots

/-! ## Settings -/

/-- Sets a root: the answer, and the roots afterwards. A refused setting leaves them as they are. -/
def setOrKeep (r : RollupRoots) (s : UInt32 × Digest) : Except LedgerError Unit × RollupRoots :=
  match r.set s.1 s.2 with
  | .ok r' => (.ok (), r')
  | .error e => (.error e, r)

/-- Sets roots one after another: the answers, and the roots afterwards. -/
def setEach : RollupRoots → List (UInt32 × Digest) → List (Except LedgerError Unit) × RollupRoots
  | r, [] => ([], r)
  | r, s :: later =>
    let (answer, r) := r.setOrKeep s
    let (answers, r) := setEach r later
    (answer :: answers, r)

/-- The answer to setting a root at an index. -/
def answerTo (index : UInt32) : Except LedgerError Unit :=
  if index.toNat < maxTrackedRollups then .ok ()
  else .error (.invalidConfig s!"rollup index {index} exceeds {maxTrackedRollups}")

/-- The root that was last set at an index, if one was. -/
def lastSet? : List (UInt32 × Digest) → Nat → Option Digest
  | [], _ => none
  | (index, root) :: later, i =>
    (lastSet? later i).or
      (if index.toNat = i ∧ index.toNat < maxTrackedRollups then some root else none)

/-- The map that the settings make: the root last set at every index, zero where none was. -/
def assigned (sets : List (UInt32 × Digest)) (i : Nat) : Digest := (lastSet? sets i).getD .zero

theorem lastSet?_append (earlier later : List (UInt32 × Digest)) (i : Nat) :
    lastSet? (earlier ++ later) i = (lastSet? later i).or (lastSet? earlier i) := by
  induction earlier with
  | nil => simp [lastSet?]
  | cons s earlier ih => simp only [List.cons_append, lastSet?, ih, Option.or_assoc]

/-- A root was set at an index exactly if a setting there was not refused. -/
theorem isSome_lastSet?_iff {sets : List (UInt32 × Digest)} {i : Nat} :
    (lastSet? sets i).isSome = true ↔
      ∃ s ∈ sets, s.1.toNat = i ∧ s.1.toNat < maxTrackedRollups := by
  induction sets with
  | nil => simp [lastSet?]
  | cons s sets ih =>
    simp only [lastSet?, Option.isSome_or, Bool.or_eq_true, ih, List.mem_cons, exists_eq_or_imp]
    rw [or_comm]
    refine or_congr_left ?_
    split_ifs with taken
    · exact iff_of_true rfl taken
    · exact iff_of_false Bool.false_ne_true taken

/-- Two sequences that differ in the order of two settings at different indexes, in a root that is
    overwritten later, or in a zero that is set where nothing was set before. -/
inductive Rearranged : List (UInt32 × Digest) → List (UInt32 × Digest) → Prop
  | order (before after : List (UInt32 × Digest)) {i j : UInt32} (x y : Digest) (other : i ≠ j) :
      Rearranged (before ++ (i, x) :: (j, y) :: after) (before ++ (j, y) :: (i, x) :: after)
  | overwritten (before between after : List (UInt32 × Digest)) (i : UInt32) (x y : Digest) :
      Rearranged (before ++ (i, x) :: (between ++ (i, y) :: after))
        (before ++ (between ++ (i, y) :: after))
  | zero (before after : List (UInt32 × Digest)) {i : UInt32} (unset : ∀ s ∈ before, s.1 ≠ i) :
      Rearranged (before ++ (i, .zero) :: after) (before ++ after)

theorem Rearranged.assigned {sets sets' : List (UInt32 × Digest)} (h : Rearranged sets sets') :
    assigned sets = assigned sets' := by
  ext1 i
  simp only [RollupRoots.assigned]
  cases h with
  | order before after x y other =>
    have apart := mt UInt32.toNat_inj.1 other
    simp only [lastSet?_append, lastSet?]
    grind
  | overwritten before between after j x y =>
    simp only [lastSet?_append, lastSet?]
    grind
  | @zero before after j unset =>
    have before_none : lastSet? before j.toNat = none := by
      refine Option.not_isSome_iff_eq_none.1 fun some => ?_
      obtain ⟨s, hs, same, -⟩ := isSome_lastSet?_iff.1 some
      exact unset s hs (UInt32.toNat_inj.1 same)
    simp only [lastSet?_append, lastSet?]
    split_ifs with taken
    · obtain ⟨rfl, -⟩ := taken
      rw [before_none]
      cases lastSet? after j.toNat <;> rfl
    · rw [Option.or_none]

/-! ## Refinement -/

/-- The stored roots are those that were last set, and the indexes in use end with the highest at
    which one was set. -/
structure Assigns (r : RollupRoots) (sets : List (UInt32 × Digest)) : Prop where
  rootAt : ∀ i, r.rootAt i = assigned sets i
  inUse : ∀ i, i < r.size ↔ ∃ j, i ≤ j ∧ (lastSet? sets j).isSome = true

theorem assigns_empty : empty.Assigns [] :=
  ⟨fun _ => rfl, fun i => by simp [size, empty, lastSet?]⟩

section

variable {r r' : RollupRoots} {sets : List (UInt32 × Digest)} {s : UInt32 × Digest}

theorem Assigns.set (h : r.Assigns sets) (tracked : s.1.toNat < maxTrackedRollups)
    (done : r.set s.1 s.2 = .ok r') : r'.Assigns (sets ++ [s]) := by
  have last (i : Nat) :
      lastSet? (sets ++ [s]) i = if s.1.toNat = i then some s.2 else lastSet? sets i := by
    simp only [lastSet?_append, lastSet?, tracked, and_true]
    split_ifs <;> rfl
  constructor
  · intro i
    rw [rootAt_set done, assigned, last, h.rootAt, assigned]
    split_ifs <;> grind
  · intro i
    rw [size_set done, show i < max r.size (s.1.toNat + 1) ↔ i < r.size ∨ i ≤ s.1.toNat by omega,
      h.inUse]
    simp only [last]
    constructor
    · rintro (⟨j, le, some⟩ | le)
      · refine ⟨j, le, ?_⟩
        split_ifs
        · rfl
        · exact some
      · exact ⟨s.1.toNat, le, by rw [if_pos rfl, Option.isSome_some]⟩
    · rintro ⟨j, le, some⟩
      split_ifs at some with new
      · exact .inr (new ▸ le)
      · exact .inl ⟨j, le, some⟩

theorem Assigns.keep (h : r.Assigns sets) (untracked : ¬s.1.toNat < maxTrackedRollups) :
    r.Assigns (sets ++ [s]) := by
  have last (i : Nat) : lastSet? (sets ++ [s]) i = lastSet? sets i := by
    simp [lastSet?_append, lastSet?, untracked]
  refine ⟨fun i => ?_, fun i => ?_⟩
  · rw [h.rootAt, assigned, assigned, last]
  · simp only [h.inUse, last]

theorem setOrKeep_of_untracked (r : RollupRoots) (untracked : ¬s.1.toNat < maxTrackedRollups) :
    r.setOrKeep s = (answerTo s.1, r) := by
  rw [setOrKeep, RollupRoots.set, if_pos (Nat.not_lt.1 untracked), answerTo, if_neg untracked]

theorem Assigns.setOrKeep (h : r.Assigns sets) (s : UInt32 × Digest) :
    (r.setOrKeep s).1 = answerTo s.1 ∧ (r.setOrKeep s).2.Assigns (sets ++ [s]) := by
  by_cases tracked : s.1.toNat < maxTrackedRollups
  · obtain ⟨r', done⟩ := r.exists_set s.2 tracked
    rw [RollupRoots.setOrKeep, done, answerTo, if_pos tracked]
    exact ⟨rfl, h.set tracked done⟩
  · rw [setOrKeep_of_untracked r tracked]
    exact ⟨rfl, h.keep tracked⟩

theorem Assigns.setEach (h : r.Assigns sets) (more : List (UInt32 × Digest)) :
    (r.setEach more).1 = more.map (answerTo ·.1) ∧ (r.setEach more).2.Assigns (sets ++ more) := by
  induction more generalizing r sets with
  | nil => exact ⟨rfl, by rwa [List.append_nil]⟩
  | cons s more ih =>
    obtain ⟨answer, step⟩ := h.setOrKeep s
    obtain ⟨answers, after⟩ := ih step
    rw [List.append_cons]
    exact ⟨congrArg₂ List.cons answer answers, after⟩

theorem Assigns.localRoots_ne_empty_iff (h : r.Assigns sets) :
    r.localRoots ≠ #[] ↔ ∃ s ∈ sets, s.1.toNat < maxTrackedRollups := by
  rw [← Array.size_pos_iff, ← size, h.inUse]
  simp only [isSome_lastSet?_iff, Nat.zero_le, true_and]
  constructor
  · rintro ⟨j, s, hs, -, tracked⟩
    exact ⟨s, hs, tracked⟩
  · rintro ⟨s, hs, tracked⟩
    exact ⟨_, s, hs, rfl, tracked⟩

theorem Assigns.root_eq (h : r.Assigns sets) (H : NodeHasher)
    (taken : ∃ s ∈ sets, s.1.toNat < maxTrackedRollups) :
    r.root H = mapRoot H (assigned sets) := by
  rw [root_eq_plainRoot (h.localRoots_ne_empty_iff.2 taken), plainRoot, plainNode_eq_mapNode]
  exact congrArg (mapNode H · treeDepth 0) (funext h.rootAt)

theorem Assigns.exists_path (h : r.Assigns sets) (H : NodeHasher) {index : UInt32}
    (inUse : index.toNat < r.size) : r.get? index = some (assigned sets index.toNat) ∧
      ∃ path, r.path H index = .ok path ∧
        path.verify H index (assigned sets index.toNat) (r.root H) = true := by
  have stored := r.get?_of_lt inUse
  rw [h.rootAt] at stored
  obtain ⟨path, hpath, leads⟩ := RollupRoots.exists_path (H := H) stored
  exact ⟨stored, path, hpath, by rw [InclusionPath.verify, leads, beq_self_eq_true]⟩

/-- There is room for all roots in a tree, which has the same root and the same paths. -/
theorem Assigns.exists_tree (h : r.Assigns sets) (H : NodeHasher) :
    ∃ t, ExitTree.ofLeaves H r.localRoots.toList = .ok t ∧
      (r.localRoots ≠ #[] → t.root H = r.root H) ∧
      ∀ index : UInt32, t.path H index.toNat = r.path H index := by
  have room : r.size ≤ maxTrackedRollups := by
    by_contra more
    obtain ⟨j, le, some⟩ := (h.inUse maxTrackedRollups).1 (Nat.lt_of_not_le more)
    obtain ⟨s, -, rfl, tracked⟩ := isSome_lastSet?_iff.1 some
    omega
  have fits : r.localRoots.toList.length ≤ maxLeafCount := room.trans (by decide)
  obtain ⟨t, made, holds⟩ := ExitTree.ofLeaves_of_le H fits
  refine ⟨t, made, fun stored => ?_, fun index => ?_⟩
  · rw [ExitTree.root_of_holds holds, root_eq_plainRoot stored]
  · have count : t.count = r.size := holds.count
    by_cases inUse : index.toNat < r.size
    · rw [ExitTree.path, holds.count, ExitTree.pathAt_of_holds holds (Nat.le_refl _) inUse,
        path_eq_plainPath (r.get?_of_lt inUse), List.take_length]
    · rw [ExitTree.path, ExitTree.pathAt, if_pos (.inr (by omega)), path,
        if_pos (Nat.not_lt.1 inUse), count]

end

theorem mem_answers_iff {sets : List (UInt32 × Digest)} :
    .ok () ∈ sets.map (answerTo ·.1) ↔ ∃ s ∈ sets, s.1.toNat < maxTrackedRollups := by
  rw [List.mem_map]
  refine exists_congr fun s => and_congr_right fun _ => ?_
  rw [answerTo]
  split_ifs with tracked
  · exact iff_of_true rfl tracked
  · exact iff_of_false nofun tracked

/-- **The rollups' roots are a map.** Whatever is set at whatever indexes, in whatever order: every
    setting at a tracked index is taken, and every other is refused and changes nothing. Once one
    was taken, the common root is that of the plain tree of the roots last set, and so the same for
    sequences that come to the same; before that it is zero. It is also the root of the tree that
    the stored roots make when they are appended in turn. The indexes in use end with the highest
    that was set, and each has its root proved by a path. -/
theorem setEach_refines_map (H : NodeHasher) (sets : List (UInt32 × Digest)) :
    let (answers, r) := empty.setEach sets
    answers = sets.map (answerTo ·.1) ∧
    (∀ index root, 65536 ≤ index.toNat →
      ∃ e, r.setOrKeep (index, root) = (.error e, r)) ∧
    (.ok () ∈ answers → r.root H = mapRoot H (assigned sets)) ∧
    (.ok () ∉ answers → r.root H = .zero) ∧
    (∀ sets', Rearranged sets sets' → .ok () ∈ answers → .ok () ∈ (empty.setEach sets').1 →
      (empty.setEach sets').2.root H = r.root H) ∧
    (∃ t, ExitTree.ofLeaves H r.localRoots.toList = .ok t ∧
      (.ok () ∈ answers → t.root H = r.root H) ∧
      ∀ index : UInt32, t.path H index.toNat = r.path H index) ∧
    (∀ i, i < r.size ↔ ∃ j, i ≤ j ∧ (lastSet? sets j).isSome = true) ∧
    ∀ index : UInt32, index.toNat < r.size →
      r.get? index = some (assigned sets index.toNat) ∧
        ∃ path, r.path H index = .ok path ∧
          path.verify H index (assigned sets index.toNat) (r.root H) = true := by
  obtain ⟨answers, assigns⟩ := assigns_empty.setEach sets
  rw [List.nil_append] at assigns
  simp only [answers, mem_answers_iff]
  refine ⟨trivial, ?_, assigns.root_eq H, ?_, ?_, ?_, assigns.inUse,
    fun index => assigns.exists_path H⟩
  · intro index root untracked
    have refused : ¬index.toNat < maxTrackedRollups := Nat.not_lt.2 untracked
    exact ⟨_, (setOrKeep_of_untracked _ refused).trans (by rw [answerTo, if_neg refused])⟩
  · intro none
    rw [← assigns.localRoots_ne_empty_iff, not_not] at none
    rw [RollupRoots.root, none]
    rfl
  · intro sets' same taken taken'
    obtain ⟨answers', assigns'⟩ := assigns_empty.setEach sets'
    rw [List.nil_append] at assigns'
    rw [answers', mem_answers_iff] at taken'
    rw [assigns.root_eq H taken, assigns'.root_eq H taken', same.assigned]
  · obtain ⟨t, made, roots, paths⟩ := assigns.exists_tree H
    exact ⟨t, made, fun taken => roots (assigns.localRoots_ne_empty_iff.2 taken), paths⟩

end RollupRoots

end ExitBridge
