/-
  What a ledger tells about its state.

  Views of exit roots answer `none` in the role that does not keep them.
-/
import ExitBridge.Ledger.Claim

namespace ExitBridge

namespace Ledger

variable (l : Ledger)

/-! ## Exit tree -/

/-- The path of a leaf in the current exit tree. -/
def path (D : Deployment) (index : UInt32) : Except LedgerError InclusionPath :=
  l.tree.path D.hasher index.toNat

/-- The path of a leaf in the exit tree as it was with `count` leaves. -/
def pathAt (D : Deployment) (index : UInt32) (count : Nat) : Except LedgerError InclusionPath :=
  l.tree.pathAt D.hasher index.toNat count

/-- The root of the exit tree as it was with `count` leaves. -/
def rootAt (D : Deployment) (count : Nat) : Except LedgerError Digest :=
  l.tree.rootAt D.hasher count

/-! ## Claims -/

/-- Has the leaf of a source network been claimed? -/
def isClaimed (D : Deployment) (leafIndex sourceNetwork : UInt32) : Bool :=
  l.claimed.isClaimed
    (.ofParts (sourceNetwork == D.config.mainnetNetworkId) sourceNetwork leafIndex)

/-- Has the leaf at a global index been claimed? -/
def isClaimedGlobal (D : Deployment) (g : GlobalIndex) : Except LedgerError Bool := do
  return l.claimed.isClaimed (← g.scopeKey D.config.mainnetNetworkId)

/-! ## Wrapped tokens -/

/-- The wrapped token of an origin. -/
def wrappedOf? (D : Deployment) (origin : TokenOrigin) : Option Address :=
  l.wrapped.resolve? D.hasher origin

/-! ## Exit roots -/

/-- The mainnet's exit root, on the authority. -/
def mainnetExitRoot? : Option Digest :=
  match l.roots with
  | .authority a => some a.mainnetExitRoot
  | .replica _ => none

/-- The rollups' common root, on the authority. -/
def rollupExitRoot? : Option Digest :=
  match l.roots with
  | .authority a => some a.rollupExitRoot
  | .replica _ => none

/-- The root of the L1 info tree, on the authority. -/
def l1InfoRoot? (D : Deployment) : Option Digest :=
  match l.roots with
  | .authority a => some (a.l1InfoTree.root D.hasher)
  | .replica _ => none

/-- The last published global exit root, on the authority. -/
def lastGlobalExitRoot? : Option Digest :=
  match l.roots with
  | .authority a => a.lastGlobalExitRoot
  | .replica _ => none

/-- The exit root that the authority should fetch, on a replica. -/
def lastLocalExitRoot? : Option Digest :=
  match l.roots with
  | .authority _ => none
  | .replica r => some r.lastLocalExitRoot

/-- The path of a rollup's exit root to the common root, on the authority. -/
def rollupPath (D : Deployment) (index : UInt32) : Except LedgerError InclusionPath :=
  match l.roots with
  | .authority a => a.rollups.path D.hasher index
  | .replica _ => .error .onlyAggregatorAuthority

end Ledger

/-- The address that the wrapped token of an origin has or will have. -/
def Deployment.wrapperAddress (D : Deployment) (origin : TokenOrigin) (metadata : TokenMetadata) :
    Address :=
  D.wrapping.address D.hasher origin metadata.encode

end ExitBridge
