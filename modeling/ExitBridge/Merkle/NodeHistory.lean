/-
  Every node a tree has computed.

  Level `h` holds the roots of the subtrees of height `h`, from the left; a subtree that is not
  full counts its missing leaves as empty, and is written again when the next leaf arrives. A
  full subtree never changes, so any earlier state of the tree can be rebuilt: its full subtrees are
  looked up, its empty ones are zero hashes, and only those cut by the end of the leaves are
  hashed again.

  * `NodeHistory.push`: adds a leaf, and rewrites the last node of every level.
  * `NodeHistory.subtreeRoot?`: the root of a subtree as of an earlier leaf count; `none` if a node
    is needed that the history does not hold.
-/
import ExitBridge.Merkle.Path

namespace ExitBridge

/-- The nodes of a tree, level by level, leaves first. -/
structure NodeHistory where
  levels : Array (Array Digest)
  deriving Inhabited

namespace NodeHistory

/-- The history of the empty tree. -/
def empty : NodeHistory := ⟨Array.replicate (treeDepth + 1) #[]⟩

/-- The node at a height and position. -/
def node? (t : NodeHistory) (height position : Nat) : Option Digest := do
  (← t.levels[height]?)[position]?

/-- Writes the node at a position of a level, which is its last node or the one after it. -/
def write (level : Array Digest) (position : Nat) (node : Digest) : Array Digest :=
  if position < level.size then level.setIfInBounds position node else level.push node

/-- Rewrites the parent of the last node of each level from `height` on, given that node's
    position below. -/
def rise (H : NodeHasher) (zeros : Array Digest) (height steps position : Nat) (t : NodeHistory) :
    NodeHistory :=
  match steps with
  | 0 => t
  | steps + 1 =>
    let zero := (zeros[height]?).getD .zero
    let left := (t.node? height (position / 2 * 2)).getD zero
    let right := (t.node? height (position / 2 * 2 + 1)).getD zero
    let levels := t.levels.modify (height + 1) fun level =>
      write level (position / 2) (H.pair left right)
    rise H zeros (height + 1) steps (position / 2) ⟨levels⟩

/-- Adds a leaf and rewrites the node above it on every level. -/
def push (H : NodeHasher) (zeros : Array Digest) (leaf : Digest) (t : NodeHistory) : NodeHistory :=
  let position := (t.levels[0]?.map Array.size).getD 0
  rise H zeros 0 treeDepth position ⟨t.levels.modify 0 (·.push leaf)⟩

/-- The root of the subtree at a height and position, counting only the first `count` leaves. -/
def subtreeRoot? (H : NodeHasher) (zeros : Array Digest) (t : NodeHistory) (count : Nat) :
    (height position : Nat) → Option Digest
  | height, position =>
    if count ≤ position * 2 ^ height then some ((zeros[height]?).getD .zero)
    else if (position + 1) * 2 ^ height ≤ count then t.node? height position
    else
      match height with
      | 0 => none
      | height + 1 => do
        let left ← subtreeRoot? H zeros t count height (position * 2)
        let right ← subtreeRoot? H zeros t count height (position * 2 + 1)
        return H.pair left right

end NodeHistory

end ExitBridge
