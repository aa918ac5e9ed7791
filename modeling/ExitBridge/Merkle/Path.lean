/-
  Inclusion paths in a binary tree of depth 32.

  A path lists the siblings of the nodes from a leaf up to the root, lowest first. Bit `h` of the
  leaf's index says on which side the sibling at height `h` stands.

  * `zeroHash H h`: the root of an empty subtree of height `h`.
  * `InclusionPath.fold`: the root that a leaf and a path lead to.
  * `InclusionPath.verify`: does a path lead from a leaf to a root?
-/
import ExitBridge.NodeHasher

namespace ExitBridge

/-- The depth of every exit tree. -/
def treeDepth : Nat := 32

/-- The root of an empty subtree of height `h`. -/
def zeroHash (H : NodeHasher) : Nat → Digest
  | 0 => Digest.zero
  | h + 1 => H.pair (zeroHash H h) (zeroHash H h)

/-- The roots of the empty subtrees of heights `0` to `32`. -/
def zeroHashes (H : NodeHasher) : Array Digest :=
  (List.range treeDepth).foldl (fun zs _ => zs.push (H.pair (zs.back?.getD .zero)
    (zs.back?.getD .zero))) #[Digest.zero]

/-- The siblings of the nodes between a leaf and the root, lowest first. -/
structure InclusionPath where
  siblings : List Digest
  length_siblings : siblings.length = treeDepth
  deriving DecidableEq

namespace InclusionPath

attribute [simp] length_siblings

instance : Inhabited InclusionPath := ⟨⟨List.replicate treeDepth .zero, List.length_replicate⟩⟩

/-- The siblings as a path, if they are as many as the tree is deep. -/
def ofList? (siblings : List Digest) : Option InclusionPath :=
  if h : siblings.length = treeDepth then some ⟨siblings, h⟩ else none

/-- The node reached from `node` at a position by taking the siblings in turn. -/
def climb (H : NodeHasher) : List Digest → Nat → Digest → Digest
  | [], _, node => node
  | sibling :: rest, position, node =>
    climb H rest (position / 2)
      (if position % 2 = 1 then H.pair sibling node else H.pair node sibling)

/-- The root that a leaf and its path lead to. -/
def fold (H : NodeHasher) (path : InclusionPath) (index : UInt32) (leaf : Digest) : Digest :=
  climb H path.siblings index.toNat leaf

/-- Does the path lead from the leaf to the root? -/
def verify (H : NodeHasher) (path : InclusionPath) (index : UInt32) (leaf root : Digest) : Bool :=
  path.fold H index leaf == root

end InclusionPath

end ExitBridge
