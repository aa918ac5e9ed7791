/-
  Blocks for a node without a host chain.

  Each context that is drawn stands for a new block. Its timestamp is the latest reading of the wall
  clock so far, so timestamps never decrease; its hash is that of the block before, and the hash of
  the new block is that of 48 bytes:

      hash of the block before (32) ‖ height (8) ‖ timestamp (8)

  * `BlockClock.next`: the context of the next block, and the clock after it.
-/
import ExitBridge.ExitRoot.Basic

namespace ExitBridge

/-- The last block. -/
structure BlockClock where
  height : Nat
  timestamp : UInt64
  blockHash : Digest
  deriving DecidableEq, Inhabited

namespace BlockClock

/-- The clock before the first block. -/
def ofGenesis (genesis : Digest) : BlockClock := ⟨0, 0, genesis⟩

/-- The bytes whose hash is the hash of the last block, if `parent` is that of the one before. -/
def preimage (c : BlockClock) (parent : Digest) : Bytes :=
  parent.toList ++ bigEndian 8 c.height ++ bigEndian 8 c.timestamp.toNat

/-- The context of the next block at a reading of the wall clock. -/
def next (H : NodeHasher) (c : BlockClock) (now : UInt64) : BlockContext × BlockClock :=
  let opened : BlockClock := ⟨c.height + 1, max c.timestamp now, c.blockHash⟩
  (⟨opened.timestamp, c.blockHash⟩,
    { opened with blockHash := H.hash (opened.preimage c.blockHash) })

@[simp] theorem height_next (H : NodeHasher) (c : BlockClock) (now : UInt64) :
    (c.next H now).2.height = c.height + 1 := rfl

@[simp] theorem timestamp_next (H : NodeHasher) (c : BlockClock) (now : UInt64) :
    (c.next H now).2.timestamp = max c.timestamp now := rfl

@[simp] theorem length_preimage (c : BlockClock) (parent : Digest) :
    (c.preimage parent).length = 48 := by
  simp [preimage]

end BlockClock

end ExitBridge
