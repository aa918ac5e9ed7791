/-
  Deposits: assets and messages for other networks.

  A deposit finds out where its asset comes from, has the host move the value, appends one leaf to
  the exit tree and tells of it in the journal. It is refused before value moves when its leaf, or
  the root it asks to publish, could not be committed.

  * `bridgeAsset`, `bridgeMessage`, `bridgeMessageWeth`.
  * `resolveAsset`: the origin of a deposited asset and the effect that takes it.
-/
import ExitBridge.Ledger.Basic

namespace ExitBridge

open LedgerM

variable {σ : Type}

/-! ## Requests and receipts -/

/-- A request to send an asset; the zero token is the network's native one. -/
structure AssetDeposit where
  destinationNetwork : UInt32
  destinationAddress : Address
  amount : Amount
  token : Address
  /-- Native value that comes with the request. -/
  value : Amount
  /-- Publish the exit root at once. -/
  forceUpdate : Bool
  permit : Option Permit
  deriving DecidableEq, Inhabited

/-- A request to send a message. -/
structure MessageDeposit where
  destinationNetwork : UInt32
  destinationAddress : Address
  /-- Native value that comes with the request and goes on with the message. -/
  value : Amount
  /-- Publish the exit root at once. -/
  forceUpdate : Bool
  metadata : Bytes
  deriving DecidableEq, Inhabited

/-- What a depositor gets: the leaf's index and hash, the amount in the leaf, and the global exit
    root if one was published. -/
structure DepositReceipt where
  depositCount : UInt32
  leafHash : Digest
  amount : Amount
  globalExitRoot : Option Digest
  deriving DecidableEq, Inhabited

/-- Where a deposited asset comes from, and what takes it from the sender. -/
structure ResolvedAsset where
  originNetwork : UInt32
  originAddress : Address
  metadata : Bytes
  effect : Effect
  /-- The leaf's amount is what reached the escrow, not what was asked for. -/
  amountFromReceipt : Bool
  deriving DecidableEq, Inhabited

/-! ## Checks -/

/-- A deposit must leave the network. -/
def requireOtherNetwork (D : Deployment) (destination : UInt32) : LedgerM σ Unit :=
  require (destination != D.config.networkId)
    (.destinationNetworkInvalid destination D.config.networkId)

/-- There must be room for the leaf, and for the global exit root if one is to be published. -/
def requireCapacity (forceUpdate : Bool) : LedgerM σ Unit := do
  let l ← ledger
  require (!l.tree.isFull) .merkleTreeFull
  require (!forceUpdate || l.roots.canPublish) .merkleTreeFull

/-- A permit must come from the sender, be for the bridge, and be for the amount. -/
def checkPermit (D : Deployment) (sender : Address) (amount : Amount) (p : Permit) :
    Except LedgerError Unit :=
  if p.owner ≠ sender then .error .notValidOwner
  else if p.spender ≠ D.config.bridgeAddress then .error .notValidSpender
  else if p.value ≠ amount then .error .notValidAmount
  else .ok ()

/-! ## Origin of the asset -/

/-- The native token: ether, or the gas token. -/
def resolveNative (D : Deployment) (sender : Address) (d : AssetDeposit) :
    Except LedgerError ResolvedAsset :=
  if d.value ≠ d.amount then .error .amountDoesNotMatchMsgValue
  else
    let effect := Effect.lockNative sender d.amount
    match D.config.effectiveGasToken? with
    | some gas => .ok ⟨gas.network, gas.address, gas.metadata.encode, effect, false⟩
    | none => .ok ⟨D.config.mainnetNetworkId, Address.zero, [], effect, false⟩

/-- A token of this network goes into escrow. -/
def resolveLocal (D : Deployment) (sender : Address) (d : AssetDeposit) (metadata : Bytes) :
    Except LedgerError ResolvedAsset := do
  if let some permit := d.permit then
    checkPermit D sender d.amount permit
  return ⟨D.config.networkId, d.token, metadata,
    .pullTokens d.token sender d.amount d.permit, true⟩

/-- The origin of a deposited asset: native, wrapped ether, a wrapped token, or a local token. -/
def resolveAsset (D : Deployment) (wrapped : WrappedTokens) (metadata : TokenMetadata)
    (sender : Address) (d : AssetDeposit) : Except LedgerError ResolvedAsset :=
  if d.token = Address.zero then resolveNative D sender d
  else if d.value ≠ 0 then .error .msgValueNotZero
  else
    let burn := Effect.burnWrapped d.token sender d.amount
    if D.weth = some d.token then
      .ok ⟨D.config.mainnetNetworkId, Address.zero, [], burn, false⟩
    else
      match wrapped.origin? d.token with
      | some origin => .ok ⟨origin.network, origin.token, metadata.encode, burn, false⟩
      | none => resolveLocal D sender d metadata.encode

/-! ## Committing -/

/-- Appends a leaf, tells of it, and publishes the new root if that is asked for. -/
def commitDeposit (D : Deployment) (leaf : Leaf) (metadata : Bytes) (forceUpdate : Bool)
    (block : BlockContext) : LedgerM σ DepositReceipt := do
  let leafHash := leaf.hash D.hasher
  let l ← ledger
  let (index, tree) ← ofResult (l.tree.append D.hasher leafHash)
  change fun l => { l with tree := tree }
  emit (.bridge
    { kind := leaf.kind
      originNetwork := leaf.originNetwork
      originAddress := leaf.originAddress
      destinationNetwork := leaf.destinationNetwork
      destinationAddress := leaf.destinationAddress
      amount := leaf.amount
      metadata := metadata
      depositCount := UInt32.ofNat index })
  let globalExitRoot ← if forceUpdate then publishLocalRoot D block else pure none
  return ⟨UInt32.ofNat index, leafHash, leaf.amount, globalExitRoot⟩

/-- Commits a message of a sender. -/
def commitMessage (D : Deployment) (sender : Address) (amount : Amount) (d : MessageDeposit)
    (block : BlockContext) : LedgerM σ DepositReceipt :=
  commitDeposit D
    { kind := .message
      originNetwork := D.config.networkId
      originAddress := sender
      destinationNetwork := d.destinationNetwork
      destinationAddress := d.destinationAddress
      amount := amount
      metadataHash := metadataHash D.hasher d.metadata }
    d.metadata d.forceUpdate block

/-! ## Deposits -/

/-- Sends an asset to an address on another network. -/
def bridgeAsset [ExecutionHost σ] (D : Deployment) (sender : Address) (d : AssetDeposit)
    (block : BlockContext) : LedgerM σ DepositReceipt := do
  requireOperational
  requireOtherNetwork D d.destinationNetwork
  requireCapacity d.forceUpdate
  let s ← get
  let asset ← ofResult (resolveAsset D s.ledger.wrapped
    (ExecutionHost.tokenMetadata s.host d.token) sender d)
  let receipt ← perform .transferFailed [asset.effect]
  commitDeposit D
    { kind := .asset
      originNetwork := asset.originNetwork
      originAddress := asset.originAddress
      destinationNetwork := d.destinationNetwork
      destinationAddress := d.destinationAddress
      amount := if asset.amountFromReceipt then receipt.pulled else d.amount
      metadataHash := metadataHash D.hasher asset.metadata }
    asset.metadata d.forceUpdate block

/-- Sends a message, with native value unless the network has a gas token. -/
def bridgeMessage [ExecutionHost σ] (D : Deployment) (sender : Address) (d : MessageDeposit)
    (block : BlockContext) : LedgerM σ DepositReceipt := do
  requireOperational
  requireOtherNetwork D d.destinationNetwork
  require (D.weth.isNone || d.value == 0) .noValueInMessagesOnGasTokenNetworks
  requireCapacity d.forceUpdate
  if d.value ≠ 0 then
    discard <| perform .transferFailed [.lockNative sender d.value]
  commitMessage D sender d.value d block

/-- Sends a message with wrapped ether, on networks with a gas token. -/
def bridgeMessageWeth [ExecutionHost σ] (D : Deployment) (sender : Address) (d : MessageDeposit)
    (amount : Amount) (block : BlockContext) : LedgerM σ DepositReceipt := do
  requireOperational
  let weth ← ofResult (match D.weth with
    | some weth => .ok weth
    | none => .error .nativeTokenIsEther)
  requireOtherNetwork D d.destinationNetwork
  require (d.value == 0) .msgValueNotZero
  requireCapacity d.forceUpdate
  discard <| perform .transferFailed [.burnWrapped weth sender amount]
  commitMessage D sender amount d block

end ExitBridge
