/-
  The latest exit root of every rollup.

  Rollups are numbered from zero; one that has reported nothing counts as zero. Their common root
  is that of a tree of depth 32 with these roots as leaves.

  * `RollupRoots.set`, `RollupRoots.get?`: write and read one rollup's root.
  * `RollupRoots.root`: the common root; zero while no rollup has reported.
  * `RollupRoots.path`: the path of one rollup's root to the common root.
-/
import ExitBridge.Error
import ExitBridge.Merkle.Path

namespace ExitBridge

/-! ## Trees given by a list of leaves -/

/-- The parents of a row of nodes. The row is followed by nodes equal to `zero`, whose parent is
    `parentZero`; two such nodes are not hashed again. -/
def parents (H : NodeHasher) (zero parentZero : Digest) : List Digest → List Digest
  | [] => []
  | [left] => [if left = zero then parentZero else H.pair left zero]
  | left :: right :: rest =>
    (if left = zero ∧ right = zero then parentZero else H.pair left right) ::
      parents H zero parentZero rest

/-- The root above a row of nodes, `height` levels up. -/
def rowRoot (H : NodeHasher) : (height : Nat) → Digest → List Digest → Digest
  | 0, zero, row => row.headD zero
  | height + 1, zero, row =>
    let parentZero := H.pair zero zero
    rowRoot H height parentZero (parents H zero parentZero row)

/-- The siblings on the way from a position of a row, `height` levels up. -/
def rowPath (H : NodeHasher) : (height : Nat) → Digest → List Digest → Nat → List Digest
  | 0, _, _, _ => []
  | height + 1, zero, row, position =>
    let parentZero := H.pair zero zero
    row.getD (position ^^^ 1) zero ::
      rowPath H height parentZero (parents H zero parentZero row) (position / 2)

@[simp] theorem length_rowPath (H : NodeHasher) (height : Nat) (zero : Digest) (row : List Digest)
    (position : Nat) : (rowPath H height zero row position).length = height := by
  induction height generalizing zero row position with
  | zero => rfl
  | succ height ih => simp [rowPath, ih]

/-! ## Rollups -/

/-- The number of rollups that are tracked. -/
def maxTrackedRollups : Nat := 65536

/-- The latest exit root of each rollup, by rollup index. -/
structure RollupRoots where
  localRoots : Array Digest
  deriving Inhabited

namespace RollupRoots

/-- No rollup has reported. -/
def empty : RollupRoots := ⟨#[]⟩

/-- The number of rollup indexes in use. -/
def size (r : RollupRoots) : Nat := r.localRoots.size

/-- The root last set at an index; `none` beyond the indexes in use. -/
def get? (r : RollupRoots) (index : UInt32) : Option Digest := r.localRoots[index.toNat]?

/-- Sets the root at an index; indexes before it that were not in use become zero. -/
def set (r : RollupRoots) (index : UInt32) (root : Digest) : Except LedgerError RollupRoots :=
  if maxTrackedRollups ≤ index.toNat then
    .error (.invalidConfig s!"rollup index {index} exceeds {maxTrackedRollups}")
  else
    let extended := r.localRoots ++ Array.replicate (index.toNat + 1 - r.size) Digest.zero
    .ok ⟨extended.setIfInBounds index.toNat root⟩

/-- The common root; zero while no rollup has reported. -/
def root (H : NodeHasher) (r : RollupRoots) : Digest :=
  if r.localRoots.isEmpty then .zero else rowRoot H treeDepth .zero r.localRoots.toList

/-- The path of the root at an index to the common root. -/
def path (H : NodeHasher) (r : RollupRoots) (index : UInt32) : Except LedgerError InclusionPath :=
  if r.size ≤ index.toNat then .error (.leafIndexOutOfRange index.toNat r.size)
  else .ok ⟨rowPath H treeDepth .zero r.localRoots.toList index.toNat, by simp⟩

end RollupRoots

end ExitBridge
