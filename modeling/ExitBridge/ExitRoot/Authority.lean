/-
  The global exit roots of the network that publishes them.

  The authority folds its own exit root (the mainnet's) and the rollups' common root into a global
  exit root. The first publication of one records the time and adds a leaf to the L1 info tree;
  publishing it again only makes it the latest one.

  * `RootAuthority.publish`, `RootAuthority.updateMainnet`, `RootAuthority.updateRollup`.
-/
import ExitBridge.ExitRoot.Basic
import ExitBridge.ExitRoot.Rollups
import ExitBridge.Merkle.ExitTree
import Std.Data.HashMap

namespace ExitBridge

/-- All that the authority knows of exit roots. -/
structure RootAuthority where
  mainnetExitRoot : Digest
  rollupExitRoot : Digest
  rollups : RollupRoots
  lastGlobalExitRoot : Option Digest
  registry : Std.HashMap Digest GlobalExitRootRecord
  l1InfoTree : ExitTree
  deriving Inhabited

namespace RootAuthority

/-- Nothing has been published. -/
def empty : RootAuthority := ⟨.zero, .zero, .empty, none, ∅, .empty⟩

/-- Is this global exit root published? -/
def isKnown (a : RootAuthority) (globalExitRoot : Digest) : Bool :=
  a.registry.contains globalExitRoot

/-- What was recorded when the global exit root was first published. -/
def record? (a : RootAuthority) (globalExitRoot : Digest) : Option GlobalExitRootRecord :=
  a.registry[globalExitRoot]?

/-- The number of published global exit roots. -/
def knownCount (a : RootAuthority) : Nat := a.registry.size

/-- Records a global exit root that was not known: adds its leaf to the L1 info tree. -/
def announce (H : NodeHasher) (a : RootAuthority) (roots : GlobalExitRoot) (block : BlockContext) :
    Except LedgerError (L1InfoUpdate × RootAuthority) := do
  let globalExitRoot := roots.hash H
  let leaf : L1InfoLeaf := ⟨globalExitRoot, block.blockHash, block.timestamp⟩
  let (index, tree) ← a.l1InfoTree.append H (leaf.hash H)
  let record : GlobalExitRootRecord := ⟨roots, block.timestamp, UInt32.ofNat index⟩
  return (⟨UInt32.ofNat index, tree.root H⟩,
    { a with registry := a.registry.insert globalExitRoot record, l1InfoTree := tree })

/-- Makes the global exit root of the two halves the latest one, and announces it if it is new. -/
def publish (H : NodeHasher) (a : RootAuthority) (mainnetExitRoot rollupExitRoot : Digest)
    (block : BlockContext) : Except LedgerError (PublishOutcome × RootAuthority) := do
  let roots : GlobalExitRoot := ⟨mainnetExitRoot, rollupExitRoot⟩
  let globalExitRoot := roots.hash H
  let (l1Info, a) ←
    if a.isKnown globalExitRoot then pure (none, a)
    else do
      let (update, a) ← a.announce H roots block
      pure (some update, a)
  return (⟨globalExitRoot, roots, l1Info⟩,
    { a with
      mainnetExitRoot := mainnetExitRoot
      rollupExitRoot := rollupExitRoot
      lastGlobalExitRoot := some globalExitRoot })

/-- Publishes a new exit root of the mainnet with the rollups as they are. -/
def updateMainnet (H : NodeHasher) (a : RootAuthority) (mainnetExitRoot : Digest)
    (block : BlockContext) : Except LedgerError (PublishOutcome × RootAuthority) :=
  a.publish H mainnetExitRoot a.rollupExitRoot block

/-- Sets a rollup's exit root and publishes the new common root. -/
def updateRollup (H : NodeHasher) (a : RootAuthority) (index : UInt32) (localExitRoot : Digest)
    (block : BlockContext) : Except LedgerError (PublishOutcome × RootAuthority) := do
  let rollups ← a.rollups.set index localExitRoot
  let (outcome, a) ← a.publish H a.mainnetExitRoot (rollups.root H) block
  return (outcome, { a with rollups := rollups })

end RootAuthority

end ExitBridge
