/-
  The global exit roots a ledger may prove claims against, by its role.

  The authority publishes them; any other network is a replica, which learns them from the
  authority and remembers its own exit root for the authority to fetch.

  * `RootReplica.learn`: the first timestamp of a global exit root stays.
  * `RootStore`: one of the two; `RootStore.recordLocal` hands it the ledger's own new exit root.
-/
import ExitBridge.ExitRoot.Authority

namespace ExitBridge

/-- Global exit roots learned from the authority, and the network's own last exit root. -/
structure RootReplica where
  registry : Std.HashMap Digest UInt64
  lastLocalExitRoot : Digest
  deriving Inhabited

namespace RootReplica

/-- Nothing has been learned. -/
def empty : RootReplica := ⟨∅, .zero⟩

/-- Is this global exit root known? -/
def isKnown (r : RootReplica) (globalExitRoot : Digest) : Bool :=
  r.registry.contains globalExitRoot

/-- When the global exit root was first seen. -/
def timestamp? (r : RootReplica) (globalExitRoot : Digest) : Option UInt64 :=
  r.registry[globalExitRoot]?

/-- The number of known global exit roots. -/
def knownCount (r : RootReplica) : Nat := r.registry.size

/-- Learns a global exit root: was it new? -/
def learn (r : RootReplica) (globalExitRoot : Digest) (timestamp : UInt64) : Bool × RootReplica :=
  if r.isKnown globalExitRoot then (false, r)
  else (true, { r with registry := r.registry.insert globalExitRoot timestamp })

end RootReplica

/-- The global exit roots of a ledger. -/
inductive RootStore where
  | authority (a : RootAuthority)
  | replica (r : RootReplica)
  deriving Inhabited

namespace RootStore

/-- The empty store of a role. -/
def ofRole (isAuthority : Bool) : RootStore :=
  if isAuthority then .authority .empty else .replica .empty

/-- Does the ledger publish global exit roots? -/
def isAuthority : RootStore → Bool
  | authority _ => true
  | replica _ => false

/-- Is this global exit root known? -/
def isKnown : RootStore → Digest → Bool
  | authority a => a.isKnown
  | replica r => r.isKnown

/-- When the global exit root was first seen. -/
def timestamp? : RootStore → Digest → Option UInt64
  | authority a => fun d => (a.record? d).map (·.timestamp)
  | replica r => r.timestamp?

/-- The number of known global exit roots. -/
def knownCount : RootStore → Nat
  | authority a => a.knownCount
  | replica r => r.knownCount

/-- Could a new global exit root be announced? -/
def canPublish : RootStore → Bool
  | authority a => !a.l1InfoTree.isFull
  | replica _ => true

/-- Hands over the ledger's own new exit root: the authority publishes it, a replica remembers
    it. -/
def recordLocal (H : NodeHasher) (s : RootStore) (localExitRoot : Digest) (block : BlockContext) :
    Except LedgerError (Option PublishOutcome × RootStore) :=
  match s with
  | authority a => do
    let (outcome, a) ← a.updateMainnet H localExitRoot block
    return (some outcome, authority a)
  | replica r => .ok (none, replica { r with lastLocalExitRoot := localExitRoot })

end RootStore

end ExitBridge
