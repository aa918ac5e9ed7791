/-
  The state of a bridge ledger, and what its operations are made of.

  What is decided when a ledger is created stays in its `Deployment`; what operations change is the
  `Ledger`. An operation runs on a `BridgeState`, the ledger beside the host that moves value, and
  leaves the state as it is at the point where it fails.

  * `Deployment.create`: checks the configuration and deploys wrapped ether on networks with a gas
    token.
  * `LedgerM`: operations.
  * `publishLocalRoot`: hands the root of the exit tree to the store of global exit roots.
-/
import ExitBridge.Config
import ExitBridge.Execution.Effect
import ExitBridge.ExitRoot.Store
import ExitBridge.Journal.Basic
import ExitBridge.ReplayGuard
import ExitBridge.WrappedTokens

namespace ExitBridge

/-! ## State -/

/-- What is decided when a ledger is created. -/
structure Deployment where
  hasher : NodeHasher
  config : LedgerConfig
  wrapping : WrappingRule
  /-- The token that stands for ether on a network with a gas token. -/
  weth : Option Address

/-- What the operations of a ledger change. -/
structure Ledger where
  tree : ExitTree
  /-- The number of leaves at the last publication of the tree's root. -/
  lastUpdatedCount : Nat
  roots : RootStore
  wrapped : WrappedTokens
  claimed : ReplayGuard
  journal : Journal
  emergency : Bool
  deriving Inhabited

/-- A ledger and the host it runs over. -/
structure BridgeState (σ : Type) where
  ledger : Ledger
  host : σ

/-- An operation of a ledger. When it fails, the state is that at the point of failure. -/
abbrev LedgerM (σ : Type) := EStateM LedgerError (BridgeState σ)

namespace Deployment

/-- The metadata of wrapped ether. -/
def wethMetadata : Bytes :=
  TokenMetadata.encode ⟨"Wrapped Ether", "WETH", 18⟩

/-- The ledger before any operation. -/
def genesis (config : LedgerConfig) : Ledger :=
  { tree := .empty
    lastUpdatedCount := 0
    roots := .ofRole config.isAggregatorAuthority
    wrapped := .empty
    claimed := .empty
    journal := .empty config.journalRetention
    emergency := false }

/-- Deploys a token, unless that has been done before. -/
def ensureDeployed {σ : Type} [ExecutionHost σ] (host : σ) (token : Address) (metadata : Bytes) :
    Except LedgerError σ :=
  match ExecutionHost.apply host [.deployWrapped token metadata] with
  | .ok (_, host) => .ok host
  | .error (.alreadyDeployed _) => .ok host
  | .error e => .error (.transferFailed e.message)

/-- Creates a ledger over a host. -/
def create {σ : Type} [ExecutionHost σ] (H : NodeHasher) (config : LedgerConfig)
    (derivation : Derivation) (host : σ) : Except LedgerError (Deployment × BridgeState σ) := do
  config.validate
  let wrapping : WrappingRule := ⟨config.bridgeAddress, config.wrappedTokenTemplate, derivation⟩
  if config.effectiveGasToken?.isSome then
    let weth := wrapping.addressWithSalt .zero wethMetadata
    let host ← ensureDeployed host weth wethMetadata
    return (⟨H, config, wrapping, some weth⟩, ⟨genesis config, host⟩)
  else
    return (⟨H, config, wrapping, none⟩, ⟨genesis config, host⟩)

end Deployment

/-! ## Steps of operations -/

namespace LedgerM

variable {σ : Type}

/-- The ledger. -/
def ledger : LedgerM σ Ledger := fun s => .ok s.ledger s

/-- Changes the ledger. -/
def change (f : Ledger → Ledger) : LedgerM σ Unit := fun s => .ok () { s with ledger := f s.ledger }

/-- A result, or the end of the operation. -/
def ofResult {α : Type} (r : Except LedgerError α) : LedgerM σ α := fun s =>
  match r with
  | .ok a => .ok a s
  | .error e => .error e s

/-- Ends the operation with an error unless a condition holds. -/
def require (condition : Bool) (e : LedgerError) : LedgerM σ Unit := fun s =>
  if condition then .ok () s else .error e s

/-- Adds an event to the journal. -/
def emit (e : Event) : LedgerM σ Unit := change fun l => { l with journal := l.journal.push e }

/-- Has the host carry out effects; `blame` makes the error of its refusal. -/
def perform [ExecutionHost σ] (blame : String → LedgerError) (effects : List Effect) :
    LedgerM σ ExecutionReceipt := fun s =>
  match ExecutionHost.apply s.host effects with
  | .ok (receipt, host) => .ok receipt { s with host := host }
  | .error e => .error (blame e.message) s

/-- Deposits and claims are refused in the emergency state. -/
def requireOperational : LedgerM σ Unit := do
  let l ← ledger
  require (!l.emergency) .onlyNotEmergencyState

end LedgerM

open LedgerM

variable {σ : Type}

/-- The event of a new global exit root. -/
def PublishOutcome.event? (o : PublishOutcome) (block : BlockContext) : Option Event :=
  o.l1Info.map fun update =>
    .updateL1InfoTree
      { mainnetExitRoot := o.roots.mainnetExitRoot
        rollupExitRoot := o.roots.rollupExitRoot
        globalExitRoot := o.globalExitRoot
        l1InfoIndex := update.leafIndex
        l1InfoRoot := update.l1InfoRoot
        timestamp := block.timestamp }

/-- Tells of a new global exit root, if a publication made one. -/
def announceOutcome (o : PublishOutcome) (block : BlockContext) : LedgerM σ Unit :=
  match o.event? block with
  | some e => emit e
  | none => pure ()

/-- Hands the root of the exit tree to the store; the global exit root, if one was published. -/
def publishLocalRoot (D : Deployment) (block : BlockContext) : LedgerM σ (Option Digest) := do
  let l ← ledger
  let (outcome?, roots) ← ofResult (l.roots.recordLocal D.hasher (l.tree.root D.hasher) block)
  change fun l => { l with roots := roots, lastUpdatedCount := l.tree.count }
  match outcome? with
  | none => return none
  | some outcome =>
    announceOutcome outcome block
    return some outcome.globalExitRoot

end ExitBridge
