/-
  The hash that leaves, nodes and registry keys are made with.

  Every structure of the library takes its hash as a parameter; `NodeHasher.keccak` is the one the
  node runs with. The theory of trees and registries never looks inside it.

  * `NodeHasher.pair`: the parent of two nodes is the hash of their 64 bytes.
-/
import ExitBridge.Keccak

namespace ExitBridge

/-- A hash from byte strings to digests. -/
structure NodeHasher where
  hash : Bytes → Digest

namespace NodeHasher

/-- The parent of two nodes: the hash of the left node's bytes and the right node's bytes. -/
def pair (H : NodeHasher) (left right : Digest) : Digest :=
  H.hash (left.toList ++ right.toList)

/-- Keccak-256. -/
def keccak : NodeHasher := ⟨keccak256⟩

end NodeHasher

end ExitBridge
