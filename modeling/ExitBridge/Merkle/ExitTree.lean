/-
  The append-only tree of depth 32.

  The tree keeps one node per level (the frontier): at a level whose bit is set in the leaf count,
  the root of the last full subtree of that height that has no right neighbour yet. Appending a leaf
  is adding one in binary: full subtrees are joined as long as bits carry. The root folds the
  frontier with the roots of empty subtrees.

  * `ExitTree.append`, `ExitTree.root`: cost one hash per level at most.
  * `ExitTree.pathAt`, `ExitTree.rootAt`: paths and roots as of an earlier leaf count, for trees
    that keep their nodes.
  * `ExitTree.snapshot`, `ExitTree.ofSnapshot`: the part of the state that decides every later root.
-/
import ExitBridge.Error
import ExitBridge.Merkle.NodeHistory

namespace ExitBridge

/-- The number of leaves that fill a tree. -/
def maxLeafCount : Nat := 2 ^ treeDepth

/-- The state that decides every later root of a tree. -/
structure TreeSnapshot where
  frontier : Vector Digest treeDepth
  depositCount : Nat
  /-- The root, once all leaves are present. -/
  fullRoot : Option Digest
  deriving DecidableEq

/-- An append-only tree; without `history` it answers no question about the past. -/
structure ExitTree where
  frontier : Vector Digest treeDepth
  count : Nat
  /-- The root, once all leaves are present. -/
  fullRoot : Option Digest
  history : Option NodeHistory
  deriving Inhabited

namespace ExitTree

/-- The empty tree that keeps only its frontier. -/
def emptyFrontier : ExitTree := ⟨Vector.replicate treeDepth .zero, 0, none, none⟩

/-- The empty tree that keeps all nodes. -/
def empty : ExitTree := { emptyFrontier with history := some .empty }

/-- Are all leaves present? -/
def isFull (t : ExitTree) : Bool := maxLeafCount ≤ t.count

/-! ## Appending -/

/-- Joins a node with the frontier from a level on, as long as the bits of the new count carry:
    the frontier afterwards, and the node that no level took. -/
def carry (H : NodeHasher) : List Digest → Nat → Digest → List Digest × Option Digest
  | [], _, node => ([], some node)
  | slot :: rest, size, node =>
    if size % 2 = 1 then (node :: rest, none)
    else
      let (rest, top) := carry H rest (size / 2) (H.pair slot node)
      (slot :: rest, top)

@[simp] theorem length_carry (H : NodeHasher) (frontier : List Digest) (size : Nat)
    (node : Digest) : (carry H frontier size node).1.length = frontier.length := by
  induction frontier generalizing size node with
  | nil => rfl
  | cons slot rest ih => unfold carry; split <;> simp_all

/-- Appends a leaf; its index is the count before. A full tree refuses. -/
def append (H : NodeHasher) (t : ExitTree) (leaf : Digest) :
    Except LedgerError (Nat × ExitTree) :=
  if t.isFull then .error .merkleTreeFull
  else
    let carried := carry H t.frontier.toList (t.count + 1) leaf
    .ok (t.count,
      { frontier := ⟨carried.1.toArray, by simp [carried]⟩
        count := t.count + 1
        fullRoot := carried.2.or t.fullRoot
        history := t.history.map (·.push H (zeroHashes H) leaf) })

/-- The tree of the given leaves. -/
def ofLeaves (H : NodeHasher) (leaves : List Digest) : Except LedgerError ExitTree :=
  leaves.foldlM (fun t leaf => (t.append H leaf).map Prod.snd) empty

/-! ## Root -/

/-- Folds the frontier from a level on with a node and the root of the empty subtree of its
    height. -/
def foldFrontier (H : NodeHasher) : List Digest → Nat → Digest → Digest → Digest
  | [], _, node, _ => node
  | slot :: rest, count, node, zero =>
    foldFrontier H rest (count / 2)
      (if count % 2 = 1 then H.pair slot node else H.pair node zero) (H.pair zero zero)

/-- The current root. -/
def root (H : NodeHasher) (t : ExitTree) : Digest :=
  t.fullRoot.getD (foldFrontier H t.frontier.toList t.count .zero .zero)

/-! ## The past -/

/-- The path of a leaf in the tree as it was with `count` leaves. -/
def pathAt (H : NodeHasher) (t : ExitTree) (index count : Nat) :
    Except LedgerError InclusionPath :=
  if t.count < count ∨ count ≤ index then .error (.leafIndexOutOfRange index count)
  else
    match t.history with
    | none => .error .proofHistoryUnavailable
    | some history =>
      let zeros := zeroHashes H
      let siblings := (List.range treeDepth).mapM fun height =>
        history.subtreeRoot? H zeros count height ((index / 2 ^ height) ^^^ 1)
      match siblings.bind InclusionPath.ofList? with
      | none => .error .proofHistoryUnavailable
      | some path => .ok path

/-- The path of a leaf in the current tree. -/
def path (H : NodeHasher) (t : ExitTree) (index : Nat) : Except LedgerError InclusionPath :=
  t.pathAt H index t.count

/-- The root as it was with `count` leaves. -/
def rootAt (H : NodeHasher) (t : ExitTree) (count : Nat) : Except LedgerError Digest :=
  if t.count < count then .error (.leafIndexOutOfRange count t.count)
  else if count = t.count then .ok (t.root H)
  else
    match t.history.bind (·.subtreeRoot? H (zeroHashes H) count treeDepth 0) with
    | none => .error .proofHistoryUnavailable
    | some root => .ok root

/-- The leaf at an index, if the tree keeps its nodes. -/
def leaf? (t : ExitTree) (index : Nat) : Option Digest :=
  t.history.bind (·.node? 0 index)

/-! ## Snapshots -/

/-- The part of the state that decides every later root. -/
def snapshot (t : ExitTree) : TreeSnapshot := ⟨t.frontier, t.count, t.fullRoot⟩

/-- Restores a tree, without its past. The full root must be there exactly when the tree is
    full. -/
def ofSnapshot (s : TreeSnapshot) : Except LedgerError ExitTree :=
  if maxLeafCount < s.depositCount then
    .error (.invalidConfig s!"deposit count {s.depositCount} exceeds 2^32")
  else if s.fullRoot.isSome ≠ (s.depositCount == maxLeafCount) then
    .error (.invalidConfig "full root must be present exactly when the tree is full")
  else .ok ⟨s.frontier, s.depositCount, s.fullRoot, none⟩

end ExitTree

end ExitBridge
