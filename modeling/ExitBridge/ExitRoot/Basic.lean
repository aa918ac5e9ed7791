/-
  Global exit roots and what is recorded about them.

  A global exit root is the hash of the mainnet's exit root and the rollups' exit root. The first
  time one is published it becomes a leaf of the L1 info tree, whose 72-byte preimage is

      global exit root (32) ‖ block hash (32) ‖ timestamp (8)

  * `GlobalExitRoot.hash`, `L1InfoLeaf.preimage`, `L1InfoLeaf.hash`.
  * `GlobalExitRootRecord`: when a global exit root was first seen, and its place in the tree.
-/
import ExitBridge.NodeHasher

namespace ExitBridge

/-- The block in which something is committed. -/
structure BlockContext where
  timestamp : UInt64
  blockHash : Digest
  deriving DecidableEq, Inhabited

/-- The two halves of a global exit root. -/
structure GlobalExitRoot where
  mainnetExitRoot : Digest
  rollupExitRoot : Digest
  deriving DecidableEq, Inhabited

/-- The global exit root itself. -/
def GlobalExitRoot.hash (H : NodeHasher) (r : GlobalExitRoot) : Digest :=
  H.pair r.mainnetExitRoot r.rollupExitRoot

/-- A global exit root as it is committed into the L1 info tree. -/
structure L1InfoLeaf where
  globalExitRoot : Digest
  blockHash : Digest
  timestamp : UInt64
  deriving DecidableEq, Inhabited

namespace L1InfoLeaf

/-- The packed bytes that are hashed. -/
def preimage (l : L1InfoLeaf) : Bytes :=
  l.globalExitRoot.toList ++ l.blockHash.toList ++ bigEndian 8 l.timestamp.toNat

/-- The leaf's value in the tree. -/
def hash (H : NodeHasher) (l : L1InfoLeaf) : Digest :=
  H.hash l.preimage

@[simp] theorem length_preimage (l : L1InfoLeaf) : l.preimage.length = 72 := by
  simp [preimage]

end L1InfoLeaf

/-- What is kept of a published global exit root: its halves, when it was first seen, and the index
    of its leaf in the L1 info tree. -/
structure GlobalExitRootRecord where
  roots : GlobalExitRoot
  timestamp : UInt64
  l1InfoIndex : UInt32
  deriving DecidableEq, Inhabited

/-- The leaf that a new global exit root added to the L1 info tree, and the root after it. -/
structure L1InfoUpdate where
  leafIndex : UInt32
  l1InfoRoot : Digest
  deriving DecidableEq, Inhabited

/-- The result of publishing a global exit root; `l1Info` is there when it was new. -/
structure PublishOutcome where
  globalExitRoot : Digest
  roots : GlobalExitRoot
  l1Info : Option L1InfoUpdate
  deriving DecidableEq, Inhabited

end ExitBridge
