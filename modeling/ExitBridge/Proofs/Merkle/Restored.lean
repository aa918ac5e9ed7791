/-
  Trees that are restored from a snapshot.

  A snapshot is all of a tree that an append reads, apart from the nodes that are kept for the past:
  trees with one snapshot give the same answers ever after, and keep one snapshot.

  * `append_of_snapshot_eq`, `appendEach_of_snapshot_eq`: one leaf, and any number of leaves.
  * `TreeSnapshot.Sound`, `ofSnapshot_eq_ok_iff`: the snapshots that a tree can be restored from.
  * `Reached.sound`: they are those of the trees that appends and restoring lead to.
  * `restored_continues`: a tree and its restored copy, whatever is appended to both.
-/
import ExitBridge.Proofs.Merkle.Tree

namespace ExitBridge

/-- The leaves fit in a tree, and the full root is there exactly when they fill it. -/
structure TreeSnapshot.Sound (s : TreeSnapshot) : Prop where
  fits : s.depositCount ≤ maxLeafCount
  fullRoot : s.fullRoot.isSome = true ↔ s.depositCount = maxLeafCount

namespace ExitTree

variable {H : NodeHasher} {t t' : ExitTree} {s : TreeSnapshot}

/-! ## Trees with one snapshot -/

theorem snapshot_eq_iff : t'.snapshot = t.snapshot ↔
    t'.frontier = t.frontier ∧ t'.count = t.count ∧ t'.fullRoot = t.fullRoot := by
  rw [snapshot, snapshot, TreeSnapshot.mk.injEq]

theorem root_of_snapshot_eq (same : t'.snapshot = t.snapshot) : t'.root H = t.root H := by
  obtain ⟨frontier, count, fullRoot⟩ := snapshot_eq_iff.1 same
  rw [root, root, frontier, count, fullRoot]

/-- One leaf is refused by both trees, or taken by both, at one index. -/
theorem append_of_snapshot_eq (same : t'.snapshot = t.snapshot) (leaf : Digest) :
    (∃ e, t.append H leaf = .error e ∧ t'.append H leaf = .error e) ∨
      ∃ index next next', t.append H leaf = .ok (index, next) ∧
        t'.append H leaf = .ok (index, next') ∧ next'.snapshot = next.snapshot := by
  obtain ⟨frontier, count, fullRoot, history⟩ := t
  obtain ⟨frontier', count', fullRoot', history'⟩ := t'
  obtain ⟨rfl, rfl, rfl⟩ := snapshot_eq_iff.1 same
  by_cases full : (⟨frontier', count', fullRoot', history⟩ : ExitTree).isFull = true
  · exact .inl ⟨_, if_pos full, if_pos full⟩
  · exact .inr ⟨_, _, _, if_neg full, if_neg full, rfl⟩

theorem appendEach_of_snapshot_eq (same : t'.snapshot = t.snapshot) (more : List Digest) :
    (t'.appendEach H more).1 = (t.appendEach H more).1 ∧
      (t'.appendEach H more).2.snapshot = (t.appendEach H more).2.snapshot := by
  induction more generalizing t t' with
  | nil => exact ⟨rfl, same⟩
  | cons leaf more ih =>
    rcases append_of_snapshot_eq (H := H) same leaf with
      ⟨e, refused, refused'⟩ | ⟨index, next, next', taken, taken', same'⟩
    · obtain ⟨answers, after⟩ := ih same
      simp only [appendEach, refused, refused', answers]
      exact ⟨trivial, after⟩
    · obtain ⟨answers, after⟩ := ih same'
      simp only [appendEach, taken, taken', answers]
      exact ⟨trivial, after⟩

/-! ## Restoring -/

/-- The tree that is restored keeps its frontier only. -/
theorem ofSnapshot_eq_ok_iff :
    ofSnapshot s = .ok t ↔ s.Sound ∧ t = ⟨s.frontier, s.depositCount, s.fullRoot, none⟩ := by
  have fullRoot : s.fullRoot.isSome = (s.depositCount == maxLeafCount) ↔
      (s.fullRoot.isSome = true ↔ s.depositCount = maxLeafCount) := by
    rw [Bool.eq_iff_iff, beq_iff_eq]
  constructor
  · intro restored
    rw [ofSnapshot] at restored
    split at restored
    · cases restored
    · rename_i fits
      split at restored
      · cases restored
      · rename_i agrees
        cases restored
        exact ⟨⟨Nat.le_of_not_lt fits, fullRoot.1 (not_not.1 agrees)⟩, rfl⟩
  · rintro ⟨sound, rfl⟩
    rw [ofSnapshot, if_neg (Nat.not_lt.2 sound.fits),
      if_neg (not_not.2 (fullRoot.2 sound.fullRoot))]

theorem snapshot_of_ofSnapshot (restored : ofSnapshot s = .ok t) : t.snapshot = s := by
  obtain ⟨-, rfl⟩ := ofSnapshot_eq_ok_iff.1 restored
  rfl

/-- A tree comes about from an empty one, or from a snapshot, leaf by leaf. -/
inductive Reached (H : NodeHasher) : ExitTree → Prop
  | fresh (keepsNodes : Bool) : Reached H (fresh keepsNodes)
  | restored {s : TreeSnapshot} {t : ExitTree} : ofSnapshot s = .ok t → Reached H t
  | append {t t' : ExitTree} {leaf : Digest} {index : Nat} :
      Reached H t → t.append H leaf = .ok (index, t') → Reached H t'

/-- A leaf is carried past every slot, whatever they hold, when the new count fills them all. -/
theorem isSome_carry (frontier : List Digest) (size : Nat) (node : Digest) :
    (carry H frontier size node).2.isSome = true ↔ size % 2 ^ frontier.length = 0 := by
  induction frontier generalizing size node with
  | nil => simp [carry, Nat.mod_one]
  | cons slot rest ih =>
    rw [carry, List.length_cons, Nat.pow_succ, Nat.mul_comm, Nat.mod_mul]
    split
    · rename_i odd
      simp [odd]
    · rename_i even
      have even : size % 2 = 0 := by omega
      rw [ih, even]
      omega

theorem sound_of_append {leaf : Digest} {index : Nat} (sound : t.snapshot.Sound)
    (happend : t.append H leaf = .ok (index, t')) : t'.snapshot.Sound := by
  rw [append] at happend
  split at happend
  · cases happend
  · rename_i room
    cases happend
    have room : t.count < maxLeafCount := by simpa [isFull] using room
    have absent : t.fullRoot = none := by
      have := mt sound.fullRoot.1 (Nat.ne_of_lt room)
      simpa [snapshot] using this
    refine ⟨room, ?_⟩
    simp only [snapshot, absent, Option.or_none, isSome_carry, Vector.length_toList]
    exact succ_mod_maxLeafCount room

/-- **Every tree** has a snapshot that it can be restored from. -/
theorem Reached.sound (h : Reached H t) : t.snapshot.Sound := by
  induction h with
  | fresh keepsNodes =>
    cases keepsNodes
    all_goals exact ⟨Nat.zero_le _, by decide⟩
  | restored restored =>
    rw [snapshot_of_ofSnapshot restored]
    exact (ofSnapshot_eq_ok_iff.1 restored).1
  | append _ happend ih => exact sound_of_append ih happend

/-- What the leaves are answered, whatever the tree holds: a full tree stays as it is. -/
theorem answers_of_appendEach (t : ExitTree) (more : List Digest) :
    (t.appendEach H more).1 = (List.range more.length).map (fun i => answerAt (t.count + i)) := by
  induction more generalizing t with
  | nil => rfl
  | cons leaf more ih =>
    rw [List.length_cons, List.range_succ_eq_map, List.map_cons, List.map_map]
    by_cases full : t.isFull = true
    · have refused : t.append H leaf = .error .merkleTreeFull := if_pos full
      have past (i : Nat) : answerAt (t.count + i) = .error .merkleTreeFull := by
        rw [isFull, decide_eq_true_eq] at full
        exact if_neg (by omega)
      simp only [appendEach, refused, ih, past, Function.comp_def]
    · have room : t.count < maxLeafCount := by simpa [isFull] using full
      have taken : t.append H leaf = .ok (t.count, _) := if_neg full
      simp only [appendEach, taken, ih, answerAt, Nat.add_zero, if_pos room, Function.comp_def,
        Nat.add_right_comm _ 1, Nat.add_assoc, Nat.succ_eq_add_one]

/-- **A restored tree goes on as the original.** A tree can be restored from its snapshot, with its
    past or without; whatever is appended to both, they give the same answers (indexes, and refusal
    from the moment the tree is full), and have one count, one root and one snapshot. Of all
    snapshots, those can be restored whose leaves fit and whose full root is there exactly when they
    fill the tree; taking a snapshot again gives it back. -/
theorem restored_continues (H : NodeHasher) :
    (∀ t, Reached H t → ∃ t', ofSnapshot t.snapshot = .ok t' ∧ ∀ more,
      let (answers, t) := t.appendEach H more
      let (answers', t') := t'.appendEach H more
      answers' = answers ∧ t'.count = t.count ∧ t'.root H = t.root H ∧
        t'.snapshot = t.snapshot) ∧
    (∀ (t : ExitTree) (more : List Digest), (t.appendEach H more).1 =
      (List.range more.length).map (fun i => answerAt (t.count + i))) ∧
    (∀ s, (∃ t, ofSnapshot s = .ok t) ↔
      s.depositCount ≤ maxLeafCount ∧
        (s.fullRoot.isSome = true ↔ s.depositCount = maxLeafCount)) ∧
    ∀ s t, ofSnapshot s = .ok t → t.snapshot = s := by
  refine ⟨fun t reached => ?_, answers_of_appendEach, fun s => ⟨?_, ?_⟩,
    fun s t => snapshot_of_ofSnapshot⟩
  · refine ⟨_, ofSnapshot_eq_ok_iff.2 ⟨reached.sound, rfl⟩, fun more => ?_⟩
    have same : (⟨t.frontier, t.count, t.fullRoot, none⟩ : ExitTree).snapshot = t.snapshot := rfl
    obtain ⟨answers, after⟩ := appendEach_of_snapshot_eq same more
    exact ⟨answers, (snapshot_eq_iff.1 after).2.1, root_of_snapshot_eq after, after⟩
  · rintro ⟨t, restored⟩
    obtain ⟨⟨fits, fullRoot⟩, -⟩ := ofSnapshot_eq_ok_iff.1 restored
    exact ⟨fits, fullRoot⟩
  · rintro ⟨fits, fullRoot⟩
    exact ⟨_, ofSnapshot_eq_ok_iff.2 ⟨⟨fits, fullRoot⟩, rfl⟩⟩

end ExitTree

end ExitBridge
