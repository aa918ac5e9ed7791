/-
  The plain Merkle tree of a list of leaves.

  The leaves of the list come first, all further leaves are empty. Its nodes are given by plain
  recursion, without frontier or history; what trees compute faster is compared with them.

  * `plainNode H leaves h p`: the root of the subtree of height `h` at position `p`.
  * `plainRoot H leaves`: the root of the tree of depth 32.
  * `plainNode_append`, `plainNode_take`: a subtree without missing leaves never changes again.
  * `plainNode_eq_zeroHash`: a subtree without leaves has the zero hash of its height.
-/
import Mathlib.Data.List.GetD
import ExitBridge.Merkle.Path

namespace ExitBridge

variable (H : NodeHasher)

/-- The root of the subtree of a height at a position, of the tree whose first leaves are the
    list and whose other leaves are empty. -/
def plainNode (leaves : List Digest) : (height position : Nat) → Digest
  | 0, position => leaves.getD position .zero
  | height + 1, position => H.hash ((plainNode leaves height (position * 2)).toList ++
    (plainNode leaves height (position * 2 + 1)).toList)

/-- The root of the tree of depth 32 whose first leaves are the list. -/
def plainRoot (leaves : List Digest) : Digest := plainNode H leaves treeDepth 0

theorem plainNode_succ (leaves : List Digest) (height position : Nat) :
    plainNode H leaves (height + 1) position = H.pair (plainNode H leaves height (position * 2))
      (plainNode H leaves height (position * 2 + 1)) := rfl

theorem plainNode_congr {a b : List Digest} {height position : Nat}
    (h : ∀ i, position * 2 ^ height ≤ i → i < (position + 1) * 2 ^ height →
      a.getD i .zero = b.getD i .zero) :
    plainNode H a height position = plainNode H b height position := by
  induction height generalizing position with
  | zero => exact h position (by omega) (by omega)
  | succ height ih =>
    have left : plainNode H a height (position * 2) = plainNode H b height (position * 2) :=
      ih fun i hl hr => h i (by rw [Nat.pow_succ]; grind) (by rw [Nat.pow_succ]; grind)
    have right :
        plainNode H a height (position * 2 + 1) = plainNode H b height (position * 2 + 1) :=
      ih fun i hl hr => h i (by rw [Nat.pow_succ]; grind) (by rw [Nat.pow_succ]; grind)
    rw [plainNode_succ, plainNode_succ, left, right]

/-- A subtree without missing leaves is not changed by more leaves. -/
theorem plainNode_append {leaves : List Digest} {height position : Nat} (more : List Digest)
    (h : (position + 1) * 2 ^ height ≤ leaves.length) :
    plainNode H (leaves ++ more) height position = plainNode H leaves height position :=
  plainNode_congr H fun _ _ hi => List.getD_append _ _ _ _ (by omega)

/-- A subtree below a bound does not see that the leaves are cut off there. -/
theorem plainNode_take {leaves : List Digest} {height position count : Nat}
    (h : (position + 1) * 2 ^ height ≤ count) :
    plainNode H (leaves.take count) height position = plainNode H leaves height position :=
  plainNode_congr H fun i _ hi => by simp [List.getD_eq_getElem?_getD,
    show i < count by omega]

theorem plainNode_eq_zeroHash {leaves : List Digest} {height position : Nat}
    (h : leaves.length ≤ position * 2 ^ height) :
    plainNode H leaves height position = zeroHash H height := by
  induction height generalizing position with
  | zero => exact List.getD_eq_default _ _ (by omega)
  | succ height ih =>
    rw [plainNode_succ, zeroHash, ih (by rw [Nat.pow_succ] at h; grind),
      ih (by rw [Nat.pow_succ] at h; grind)]

/-! ## The table of zero hashes -/

theorem foldl_zeroHashes (n : Nat) :
    (List.range n).foldl (fun zs _ => zs.push (H.pair (zs.back?.getD .zero)
      (zs.back?.getD .zero))) #[Digest.zero] = ((List.range (n + 1)).map (zeroHash H)).toArray := by
  induction n with
  | zero => rfl
  | succ n ih =>
    rw [List.range_succ, List.foldl_append, ih]
    simp [List.range_succ, zeroHash]

@[simp] theorem getElem?_zeroHashes {height : Nat} (h : height ≤ treeDepth) :
    (zeroHashes H)[height]? = some (zeroHash H height) := by
  rw [zeroHashes, foldl_zeroHashes]
  simp [show height < treeDepth + 1 by omega]

end ExitBridge
