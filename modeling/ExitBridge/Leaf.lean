/-
  Leaves of an exit tree.

  A deposit is committed as the hash of a fixed 113-byte preimage:

      kind (1) ‖ origin network (4) ‖ origin address (20) ‖ destination network (4)
        ‖ destination address (20) ‖ amount (32) ‖ metadata hash (32)

  with integers most significant byte first.

  * `Leaf.preimage`, `Leaf.hash`: the packed bytes and their hash.
  * `Leaf.length_preimage`: the preimage has 113 bytes.
-/
import ExitBridge.NodeHasher

namespace ExitBridge

/-- What a deposit carries. -/
inductive LeafKind where
  | asset
  | message
  deriving DecidableEq, Inhabited

namespace LeafKind

/-- The byte of a kind in the preimage. -/
def toByte : LeafKind → UInt8
  | asset => 0
  | message => 1

/-- The kind of a byte, if it has one. -/
def ofByte? : UInt8 → Option LeafKind
  | 0 => some asset
  | 1 => some message
  | _ => none

/-- The name of a kind. -/
def name : LeafKind → String
  | asset => "asset"
  | message => "message"

end LeafKind

/-- A deposit as it is committed into an exit tree. -/
structure Leaf where
  kind : LeafKind
  originNetwork : UInt32
  originAddress : Address
  destinationNetwork : UInt32
  destinationAddress : Address
  amount : Amount
  metadataHash : Digest
  deriving DecidableEq, Inhabited

namespace Leaf

/-- The packed bytes that are hashed. -/
def preimage (l : Leaf) : Bytes :=
  l.kind.toByte :: (bigEndian 4 l.originNetwork.toNat ++ l.originAddress.toList ++
    bigEndian 4 l.destinationNetwork.toNat ++ l.destinationAddress.toList ++ l.amount.toBytes ++
    l.metadataHash.toList)

/-- The leaf's value in the tree. -/
def hash (H : NodeHasher) (l : Leaf) : Digest :=
  H.hash l.preimage

@[simp] theorem length_preimage (l : Leaf) : l.preimage.length = 113 := by
  simp [preimage, Amount.toBytes]

end Leaf

/-- The hash of a deposit's metadata. -/
def metadataHash (H : NodeHasher) (metadata : Bytes) : Digest :=
  H.hash metadata

end ExitBridge
