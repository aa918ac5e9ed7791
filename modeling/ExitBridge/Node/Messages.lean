/-
  What requests to a node and its responses carry.

  * `BridgeAssetRequest`, `BridgeMessageRequest`: a deposit and its sender.
  * `ClaimRequest`: a claim with a packed global index. `ClaimRequest.toClaim` and
    `ClaimRequest.ofClaim` unpack and pack it.
  * `EventsQuery`: which page of the journal is asked for.
  * The responses, named for what they tell.
-/
import ExitBridge.Journal.Basic
import ExitBridge.Ledger.Claim
import ExitBridge.Ledger.Deposit

namespace ExitBridge

/-! ## Requests -/

/-- A deposit of an asset by a sender. -/
structure BridgeAssetRequest where
  sender : Address
  deposit : AssetDeposit
  deriving DecidableEq, Inhabited

/-- A message of a sender. -/
structure BridgeMessageRequest where
  sender : Address
  deposit : MessageDeposit
  deriving DecidableEq, Inhabited

/-- A claim with a packed global index. -/
structure ClaimRequest where
  localPath : InclusionPath
  rollupPath : InclusionPath
  globalIndex : Amount
  mainnetExitRoot : Digest
  rollupExitRoot : Digest
  originNetwork : UInt32
  originAddress : Address
  destinationNetwork : UInt32
  destinationAddress : Address
  amount : Amount
  metadata : Bytes
  deriving DecidableEq, Inhabited

namespace ClaimRequest

/-- The claim, if its global index is canonical. -/
def toClaim (r : ClaimRequest) : Except LedgerError Claim := do
  return {
    localPath := r.localPath
    rollupPath := r.rollupPath
    globalIndex := ← GlobalIndex.unpack r.globalIndex
    mainnetExitRoot := r.mainnetExitRoot
    rollupExitRoot := r.rollupExitRoot
    originNetwork := r.originNetwork
    originAddress := r.originAddress
    destinationNetwork := r.destinationNetwork
    destinationAddress := r.destinationAddress
    amount := r.amount
    metadata := r.metadata }

/-- The request that makes a claim. -/
def ofClaim (c : Claim) : ClaimRequest where
  localPath := c.localPath
  rollupPath := c.rollupPath
  globalIndex := c.globalIndex.pack
  mainnetExitRoot := c.mainnetExitRoot
  rollupExitRoot := c.rollupExitRoot
  originNetwork := c.originNetwork
  originAddress := c.originAddress
  destinationNetwork := c.destinationNetwork
  destinationAddress := c.destinationAddress
  amount := c.amount
  metadata := c.metadata

end ClaimRequest

/-- A page of the journal: where it starts, and how many events it may hold. -/
structure EventsQuery where
  start : Nat
  limit : Option Nat
  deriving DecidableEq, Inhabited

/-- An amount that is to be created. -/
structure MintRequest where
  token : Address
  holder : Address
  amount : Amount
  deriving DecidableEq, Inhabited

/-! ## Responses -/

/-- The exit tree and the exit roots of a node. -/
structure RootResponse where
  networkId : UInt32
  localExitRoot : Digest
  depositCount : Nat
  lastUpdatedDepositCount : Nat
  mainnetExitRoot : Option Digest
  rollupExitRoot : Option Digest
  lastGlobalExitRoot : Option Digest
  l1InfoRoot : Option Digest
  /-- On a replica, the exit root that the authority should fold in. -/
  lastLocalExitRoot : Option Digest
  deriving DecidableEq, Inhabited

/-- The number of deposits, and how many of them the published exit root holds. -/
structure DepositCountResponse where
  depositCount : Nat
  lastUpdatedDepositCount : Nat
  deriving DecidableEq, Inhabited

/-- The path of a leaf in the exit tree of some number of deposits. -/
structure ProofResponse where
  index : UInt32
  depositCount : Nat
  root : Digest
  proof : InclusionPath
  deriving DecidableEq, Inhabited

/-- Has a leaf been claimed? -/
structure ClaimedResponse where
  sourceNetwork : UInt32
  leafIndex : UInt32
  claimed : Bool
  deriving DecidableEq, Inhabited

/-- The wrapped token of an origin. -/
structure WrappedResponse where
  originNetwork : UInt32
  originTokenAddress : Address
  wrappedTokenAddress : Option Address
  deriving DecidableEq, Inhabited

/-- What is known about a global exit root. -/
structure GlobalExitRootResponse where
  globalExitRoot : Digest
  known : Bool
  timestamp : Option UInt64
  deriving DecidableEq, Inhabited

/-- What a publication of the exit root has led to; a replica makes no global exit root. -/
structure GlobalExitRootUpdateResponse where
  globalExitRoot : Option Digest
  lastUpdatedDepositCount : Nat
  deriving DecidableEq, Inhabited

/-- Are deposits and claims stopped? -/
structure EmergencyResponse where
  emergencyState : Bool
  deriving DecidableEq, Inhabited

/-- The balance of a holder. -/
structure BalanceResponse where
  token : Address
  holder : Address
  balance : Amount
  deriving DecidableEq, Inhabited

/-- How a node is doing. -/
structure HealthResponse where
  status : String
  networkId : UInt32
  aggregatorAuthority : Bool
  emergencyState : Bool
  depositCount : Nat
  knownGlobalExitRoots : Nat
  syncCursor : Nat
  lastSyncOk : Bool
  deriving DecidableEq, Inhabited

/-- Why a request was refused. -/
structure ErrorResponse where
  error : String
  code : String
  deriving DecidableEq, Inhabited

end ExitBridge
