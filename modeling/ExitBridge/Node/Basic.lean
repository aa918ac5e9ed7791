/-
  A node: a ledger over a book of balances, with a block clock, counters, and the state of its
  synchronization with peers.

  An operation gives its result together with the node after it; a reading of the wall clock comes
  from outside. Deposits draw a block whether or not they succeed; a publication without a new
  deposit draws none unless it is forced.

  * `Node.create`: the node of given settings. `checkBindAddress`: may its server listen there?
  * `Node.bridgeAsset`, `Node.bridgeMessage`, `Node.claim`: counted by kind, or as rejections.
  * `Node.updateGlobalExitRoot`, `Node.updateRollupExitRoot`, `Node.ingest`,
    `Node.setEmergencyState`.
  * `Node.isReady`, `Node.rootResponse`, `Node.eventsPage` and others: what it tells.
-/
import ExitBridge.Execution.Book
import ExitBridge.Http.SocketAddress
import ExitBridge.Ledger.Admin
import ExitBridge.Ledger.View
import ExitBridge.Node.ApiError
import ExitBridge.Node.BlockClock
import ExitBridge.Node.Messages
import ExitBridge.Node.Metrics
import ExitBridge.Settings.Basic

namespace ExitBridge

/-- A ledger with what surrounds it. -/
structure Node where
  settings : Settings
  deployment : Deployment
  bridge : BridgeState Book
  clock : BlockClock
  metrics : Metrics
  /-- The cursor of the authority's next event. -/
  syncCursor : Nat
  lastSyncOk : Bool

/-- Why a node does not start. -/
inductive NodeError where
  | ledger (cause : LedgerError)
  | bindAddress (address : String) (number : UInt16)
  deriving DecidableEq, Inhabited

/-- The wording of an error. -/
def NodeError.message : NodeError → String
  | ledger cause => s!"Failed to create ledger: {cause.message}"
  | bindAddress address number =>
    s!"Invalid bind address {address}:{number}: invalid socket address syntax"

/-- A server listens on the address of a host. -/
def checkBindAddress (address : String) (number : UInt16) : Except NodeError Unit :=
  if isHostAddress address.toList then .ok () else .error (.bindAddress address number)

namespace Node

/-! ## Creation -/

/-- The node of given settings; the escrow of its book is the bridge's address. -/
def create (H : NodeHasher) (s : Settings) : Except NodeError Node :=
  match Deployment.create H s.ledgerConfig (.create2 H) (Book.empty s.bridgeAddress) with
  | .error e => .error (.ledger e)
  | .ok (deployment, bridge) =>
    .ok {
      settings := s
      deployment := deployment
      bridge := bridge
      clock := .ofGenesis .zero
      metrics := .empty
      syncCursor := 0
      lastSyncOk := false }

/-! ## Steps of operations -/

/-- The ledger. -/
abbrev ledger (n : Node) : Ledger := n.bridge.ledger

/-- The number of known global exit roots. -/
def knownCount (n : Node) : Nat := n.ledger.roots.knownCount

/-- Draws the next block. -/
def drawBlock (n : Node) (now : UInt64) : BlockContext × Node :=
  let (block, clock) := n.clock.next n.deployment.hasher now
  (block, { n with clock := clock })

/-- Runs an operation of the ledger. -/
def perform {α : Type} (n : Node) (op : LedgerM Book α) : Except LedgerError α × Node :=
  match op n.bridge with
  | .ok a bridge => (.ok a, { n with bridge := bridge })
  | .error e bridge => (.error e, { n with bridge := bridge })

/-- Changes the metrics. -/
def count (n : Node) (f : Metrics → Metrics) : Node := { n with metrics := f n.metrics }

/-- Takes the readings of the ledger anew. -/
def refreshGauges (n : Node) : Node :=
  n.count fun m =>
    { m with
      depositCount := n.ledger.tree.count
      knownGlobalExitRoots := n.knownCount
      emergency := n.ledger.emergency }

/-- Counts an operation that was refused. -/
def countRejection (n : Node) (operation : Operation) (e : LedgerError) : Node :=
  n.count fun m => { m with rejections := m.rejections.increment (operation, e.code) }

/-- Counts a publication, if more global exit roots are known than before. -/
def countPublished (n : Node) (before : Nat) : Node :=
  if before < n.knownCount then n.count fun m => { m with published := m.published + 1 } else n

/-! ## Deposits and claims -/

/-- Counts a deposit, or its refusal. -/
def countDeposit (n : Node) (kind : LeafKind) : Except LedgerError DepositReceipt → Node
  | .ok receipt =>
    refreshGauges <| n.count fun m =>
      { m with
        deposits := m.deposits.increment kind
        published := m.published + if receipt.globalExitRoot.isSome then 1 else 0 }
  | .error e => n.countRejection .deposit e

/-- Runs a deposit in a new block. -/
def deposit (n : Node) (now : UInt64) (kind : LeafKind)
    (op : BlockContext → LedgerM Book DepositReceipt) :
    Except LedgerError DepositReceipt × Node :=
  let (block, n) := n.drawBlock now
  let (result, n) := n.perform (op block)
  (result, n.countDeposit kind result)

/-- Sends an asset to another network. -/
def bridgeAsset (n : Node) (now : UInt64) (sender : Address) (d : AssetDeposit) :
    Except LedgerError DepositReceipt × Node :=
  n.deposit now .asset (ExitBridge.bridgeAsset n.deployment sender d)

/-- Sends a message to another network. -/
def bridgeMessage (n : Node) (now : UInt64) (sender : Address) (d : MessageDeposit) :
    Except LedgerError DepositReceipt × Node :=
  n.deposit now .message (ExitBridge.bridgeMessage n.deployment sender d)

/-- Honours a claim. -/
def claim (n : Node) (kind : LeafKind) (c : Claim) : Except LedgerError ClaimReceipt × Node :=
  let (result, n) := n.perform (match kind with
    | .asset => claimAsset n.deployment c
    | .message => claimMessage n.deployment c)
  match result with
  | .ok receipt =>
    (.ok receipt, n.count fun m => { m with claims := m.claims.increment kind })
  | .error e => (.error e, n.countRejection .claim e)

/-! ## Exit roots -/

/-- Runs an operation that may publish a global exit root, in a new block. -/
def publish {α : Type} (n : Node) (now : UInt64) (op : BlockContext → LedgerM Book α) :
    Except LedgerError α × Node :=
  let before := n.knownCount
  let (block, n) := n.drawBlock now
  match n.perform (op block) with
  | (.ok a, n) => (.ok a, n.refreshGauges.countPublished before)
  | (.error e, n) => (.error e, n)

/-- Publishes the root of the exit tree, if there are new deposits or it is forced. -/
def updateGlobalExitRoot (n : Node) (now : UInt64) (force : Bool) :
    Except LedgerError (Option Digest) × Node :=
  if !force && n.ledger.tree.count == n.ledger.lastUpdatedCount then (.ok none, n)
  else n.publish now (ExitBridge.updateGlobalExitRoot n.deployment)

/-- Folds in a rollup's exit root. -/
def updateRollupExitRoot (n : Node) (now : UInt64) (index : UInt32) (root : Digest) :
    Except LedgerError Digest × Node :=
  n.publish now (ExitBridge.updateRollupExitRoot n.deployment index root)

/-- Learns the global exit roots of a page of the authority's journal, and goes on behind it. -/
def ingest (n : Node) (batch : EventBatch) : Except LedgerError Nat × Node :=
  match n.perform (ingestPeerEvents n.deployment batch) with
  | (.ok imported, n) =>
    (.ok imported,
      refreshGauges { n with
        syncCursor := batch.nextCursor
        metrics := { n.metrics with
          imported := n.metrics.imported + imported
          syncCursor := batch.nextCursor } })
  | (.error e, n) => (.error e, n)

/-! ## Switches -/

/-- Stops or resumes deposits and claims. -/
def setEmergencyState (n : Node) (active : Bool) : Except LedgerError Unit × Node :=
  match n.perform (if active then activateEmergencyState else deactivateEmergencyState) with
  | (.ok (), n) => (.ok (), n.refreshGauges)
  | (.error e, n) => (.error e, n)

/-- Notes whether the last synchronization with the authority went well. -/
def setSyncStatus (n : Node) (ok : Bool) : Node := { n with lastSyncOk := ok }

/-- A node with a peer to follow is ready when it has reached it; any other is at once. -/
def isReady (n : Node) : Bool :=
  n.settings.aggregatorAuthority || n.settings.peerUrl.isNone || n.lastSyncOk

/-! ## What it tells -/

/-- The events of a page, if the query does not ask for a limit. -/
def defaultPageSize : Nat := 100

/-- The most events of a page. -/
def maxPageSize : Nat := 1000

/-- A page of the journal. -/
def eventsPage (n : Node) (query : EventsQuery) : Except ApiError EventBatch :=
  (n.ledger.journal.since query.start (min (query.limit.getD defaultPageSize) maxPageSize)).mapError
    .source

/-- How the node is doing. -/
def healthResponse (n : Node) : HealthResponse where
  status := "healthy"
  networkId := n.deployment.config.networkId
  aggregatorAuthority := n.settings.aggregatorAuthority
  emergencyState := n.ledger.emergency
  depositCount := n.ledger.tree.count
  knownGlobalExitRoots := n.knownCount
  syncCursor := n.syncCursor
  lastSyncOk := n.lastSyncOk

/-- The exit tree and the exit roots. -/
def rootResponse (n : Node) : RootResponse where
  networkId := n.deployment.config.networkId
  localExitRoot := n.ledger.tree.root n.deployment.hasher
  depositCount := n.ledger.tree.count
  lastUpdatedDepositCount := n.ledger.lastUpdatedCount
  mainnetExitRoot := n.ledger.mainnetExitRoot?
  rollupExitRoot := n.ledger.rollupExitRoot?
  lastGlobalExitRoot := n.ledger.lastGlobalExitRoot?
  l1InfoRoot := n.ledger.l1InfoRoot? n.deployment
  lastLocalExitRoot := n.ledger.lastLocalExitRoot?

/-- The path of a leaf in the exit tree of a number of deposits; of all, if none is given. -/
def proofResponse (n : Node) (index : UInt32) (depositCount : Option Nat) :
    Except LedgerError ProofResponse := do
  let count := depositCount.getD n.ledger.tree.count
  let path ← n.ledger.pathAt n.deployment index count
  let root ← n.ledger.rootAt n.deployment count
  return ⟨index, count, root, path⟩

end Node

end ExitBridge
