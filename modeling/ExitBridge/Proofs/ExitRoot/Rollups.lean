/-
  The common root of the rollups against the plain tree.

  Rows are followed by empty nodes that are never written down. Read with its zero hash as the
  default, a row is a level of the plain tree, and its parents are the level above.

  * `root_eq_plainRoot`, `path_eq_plainPath`: root and paths are those of the plain tree of the
    rollups' roots; so `exists_path`: a path leads to the root.
  * `rootAt_set`, `exists_set`: what setting one root does to all of them, and that it can be set.
    `tracked_of_set`: only that of a tracked rollup can.
-/
import ExitBridge.ExitRoot.Rollups
import ExitBridge.Proofs.Merkle.Path

namespace ExitBridge

/-- The row is a level of the plain tree. -/
def RowHolds (H : NodeHasher) (leaves : List Digest) (height : Nat) (row : List Digest) : Prop :=
  ∀ position, row.getD position (zeroHash H height) = plainNode H leaves height position

variable {H : NodeHasher} {leaves : List Digest}

theorem getD_parents (H : NodeHasher) (zero : Digest) (row : List Digest) (position : Nat) :
    (parents H zero (H.pair zero zero) row).getD position (H.pair zero zero) =
      H.pair (row.getD (position * 2) zero) (row.getD (position * 2 + 1) zero) := by
  fun_induction parents H zero (H.pair zero zero) row generalizing position with
  | case1 => simp
  | case2 left =>
    cases position with
    | zero => simp only [List.getD_cons_zero]; split <;> simp_all
    | succ position => simp [Nat.add_mul]
  | case3 left right rest ih =>
    cases position with
    | zero => simp only [List.getD_cons_zero]; split <;> simp_all
    | succ position => simpa [Nat.add_mul] using ih position

theorem RowHolds.parents {height : Nat} {row : List Digest} (h : RowHolds H leaves height row) :
    RowHolds H leaves (height + 1)
      (parents H (zeroHash H height) (H.pair (zeroHash H height) (zeroHash H height)) row) := by
  intro position
  rw [zeroHash, getD_parents, h, h, plainNode_succ]

theorem RowHolds.rowRoot {height : Nat} {row : List Digest} (h : RowHolds H leaves height row)
    (steps : Nat) :
    rowRoot H steps (zeroHash H height) row = plainNode H leaves (height + steps) 0 := by
  induction steps generalizing height row with
  | zero =>
    rw [ExitBridge.rowRoot, Nat.add_zero, ← h 0]
    cases row <;> rfl
  | succ steps ih =>
    rw [ExitBridge.rowRoot]
    simpa only [Nat.add_assoc, Nat.add_comm 1, zeroHash] using ih h.parents

theorem RowHolds.rowPath {height : Nat} {row : List Digest} (h : RowHolds H leaves height row)
    (steps position : Nat) : rowPath H steps (zeroHash H height) row position =
      plainSiblings H leaves height steps position := by
  induction steps generalizing height row position with
  | zero => simp [ExitBridge.rowPath, plainSiblings]
  | succ steps ih =>
    rw [ExitBridge.rowPath, plainSiblings_succ, h]
    congr 1
    exact ih h.parents _

namespace RollupRoots

/-- The rollups' roots are the lowest level of their own plain tree. -/
theorem rowHolds_localRoots (r : RollupRoots) :
    RowHolds H r.localRoots.toList 0 r.localRoots.toList := fun _ => rfl

theorem root_eq_plainRoot {r : RollupRoots} (h : r.localRoots ≠ #[]) :
    r.root H = plainRoot H r.localRoots.toList := by
  have top := (rowHolds_localRoots (H := H) r).rowRoot treeDepth
  rw [root, if_neg (by simpa using h), plainRoot]
  simpa [zeroHash] using top

theorem path_eq_plainPath {r : RollupRoots} {index : UInt32} {root : Digest}
    (h : r.get? index = some root) :
    r.path H index = .ok (plainPath H r.localRoots.toList index.toNat) := by
  have siblings := (rowHolds_localRoots (H := H) r).rowPath treeDepth index.toNat
  obtain ⟨inside, -⟩ := Array.getElem?_eq_some_iff.1 h
  rw [path, if_neg (show ¬ r.size ≤ index.toNat from Nat.not_le.2 inside)]
  simp only [plainPath, ← siblings, zeroHash]

/-- A root that has been set has a path that leads to the common root. -/
theorem exists_path {r : RollupRoots} {index : UInt32} {root : Digest}
    (h : r.get? index = some root) :
    ∃ path, r.path H index = .ok path ∧ path.fold H index root = r.root H := by
  have inUse : r.localRoots ≠ #[] := by
    intro empty
    rw [get?, empty] at h
    cases h
  refine ⟨_, path_eq_plainPath h, ?_⟩
  rw [root_eq_plainRoot inUse]
  exact fold_plainPath (by rwa [Array.getElem?_toList])

/-! ## Setting a root -/

/-- The root at an index, empty when it is beyond those in use. -/
def rootAt (r : RollupRoots) (index : Nat) : Digest := r.localRoots.toList.getD index .zero

theorem get?_of_lt {index : UInt32} (r : RollupRoots) (inUse : index.toNat < r.size) :
    r.get? index = some (r.rootAt index.toNat) := by
  rw [get?, rootAt, List.getD_eq_getElem?_getD, Array.getElem?_toList,
    Array.getElem?_eq_getElem inUse]
  rfl

theorem rootAt_set {r r' : RollupRoots} {index : UInt32} {root : Digest}
    (h : r.set index root = .ok r') (i : Nat) :
    r'.rootAt i = if i = index.toNat then root else r.rootAt i := by
  unfold set at h
  split at h
  · cases h
  · cases h
    simp only [rootAt, size, List.getD_eq_getElem?_getD, Array.getElem?_toList,
      Array.getElem?_setIfInBounds, Array.size_append, Array.size_replicate,
      Array.getElem?_append, Array.getElem?_replicate]
    rcases Nat.lt_or_ge i r.localRoots.size with inside | beyond
    · grind
    · rw [Array.getElem?_eq_none beyond]
      grind

theorem size_set {r r' : RollupRoots} {index : UInt32} {root : Digest}
    (h : r.set index root = .ok r') : r'.size = max r.size (index.toNat + 1) := by
  unfold set at h
  split at h
  · cases h
  · cases h
    simp only [size, Array.size_setIfInBounds, Array.size_append, Array.size_replicate]
    omega

theorem get?_set {r r' : RollupRoots} {index : UInt32} {root : Digest}
    (h : r.set index root = .ok r') : r'.get? index = some root := by
  unfold set at h
  split at h
  · cases h
  · cases h
    rw [get?, Array.getElem?_setIfInBounds, if_pos rfl, Array.size_append, Array.size_replicate,
      size, if_pos (by omega)]

theorem exists_set (r : RollupRoots) {index : UInt32} (root : Digest)
    (tracked : index.toNat < maxTrackedRollups) : ∃ r', r.set index root = .ok r' :=
  ⟨_, by rw [set, if_neg (Nat.not_le.2 tracked)]⟩

theorem tracked_of_set {r r' : RollupRoots} {index : UInt32} {root : Digest}
    (h : r.set index root = .ok r') : index.toNat < maxTrackedRollups := by
  unfold set at h
  split at h
  · cases h
  · rename_i tracked
    exact Nat.not_le.1 tracked

end RollupRoots

end ExitBridge
