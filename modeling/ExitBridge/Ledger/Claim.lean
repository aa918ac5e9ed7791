/-
  Claims: deposits of other networks, honoured here once each.

  A claim is checked in a fixed order: destination, global exit root known, inclusion paths, not yet
  claimed. Then the host carries out its effects, and only after that the claim is marked, so a
  claim whose effects fail can be made again.

  * `verifyClaim`: the checks before the replay check; its result is the claim's key.
  * `selectAsset`: the token that an asset claim credits and the effects that do it.
  * `claimAsset`, `claimMessage`.
-/
import ExitBridge.GlobalIndex
import ExitBridge.Ledger.Basic

namespace ExitBridge

open LedgerM

variable {σ : Type}

/-! ## Requests and receipts -/

/-- All that proves and describes a deposit of another network. -/
structure Claim where
  /-- From the leaf to the exit root of its network. -/
  localPath : InclusionPath
  /-- From that exit root to the rollups' common root; not used for leaves of the mainnet. -/
  rollupPath : InclusionPath
  globalIndex : GlobalIndex
  mainnetExitRoot : Digest
  rollupExitRoot : Digest
  originNetwork : UInt32
  /-- The token of an asset, the sender of a message. -/
  originAddress : Address
  destinationNetwork : UInt32
  destinationAddress : Address
  amount : Amount
  metadata : Bytes
  deriving DecidableEq, Inhabited

namespace Claim

/-- The leaf that the claim says was deposited. -/
def leaf (H : NodeHasher) (kind : LeafKind) (c : Claim) : Leaf :=
  { kind := kind
    originNetwork := c.originNetwork
    originAddress := c.originAddress
    destinationNetwork := c.destinationNetwork
    destinationAddress := c.destinationAddress
    amount := c.amount
    metadataHash := metadataHash H c.metadata }

/-- The global exit root the claim is proven against. -/
def globalExitRoot (H : NodeHasher) (c : Claim) : Digest :=
  GlobalExitRoot.hash H ⟨c.mainnetExitRoot, c.rollupExitRoot⟩

end Claim

/-- What a claimant gets: the packed index, the token credited (zero for the native one and for
    messages), and the wrapped token if the claim created it. -/
structure ClaimReceipt where
  globalIndex : Amount
  creditedToken : Address
  newWrappedToken : Option Address
  deriving DecidableEq, Inhabited

/-! ## Verification -/

/-- The key under which a leaf of the mainnet or of a rollup is claimed. -/
def GlobalIndex.scopeKey (mainnetNetworkId : UInt32) (g : GlobalIndex) :
    Except LedgerError ScopeKey :=
  if g.mainnetFlag then .ok (.ofParts true mainnetNetworkId g.leafIndex)
  else do return .ofParts false (← rollupNetworkId g.rollupIndex) g.leafIndex

/-- Do the claim's paths lead from a leaf to the exit roots? A leaf of the mainnet lies under the
    mainnet's exit root; any other under its rollup's, which lies under the common root. -/
def Claim.provesLeaf (H : NodeHasher) (c : Claim) (leafHash : Digest) : Bool :=
  if c.globalIndex.mainnetFlag then
    c.localPath.verify H c.globalIndex.leafIndex leafHash c.mainnetExitRoot
  else
    c.rollupPath.verify H c.globalIndex.rollupIndex
      (c.localPath.fold H c.globalIndex.leafIndex leafHash) c.rollupExitRoot

/-- Destination, global exit root and inclusion; the claim's key. -/
def verifyClaim (D : Deployment) (roots : RootStore) (kind : LeafKind) (c : Claim) :
    Except LedgerError ScopeKey :=
  if c.destinationNetwork ≠ D.config.networkId then
    .error (.destinationNetworkInvalid c.destinationNetwork D.config.networkId)
  else if !roots.isKnown (c.globalExitRoot D.hasher) then .error .globalExitRootInvalid
  else if !c.provesLeaf D.hasher ((c.leaf D.hasher kind).hash D.hasher) then
    .error .invalidSmtProof
  else c.globalIndex.scopeKey D.config.mainnetNetworkId

/-! ## Effects -/

/-- The token a claim credits, the effects that do it, and the wrapped token that they create. -/
structure AssetSelection where
  creditedToken : Address
  effects : List Effect
  newWrappedToken : Option Address
  deriving DecidableEq, Inhabited

/-- The asset of a claim: ether or its wrapped form, the gas token, a token of this network, or the
    wrapped form of a foreign token. -/
def selectAsset (D : Deployment) (wrapped : WrappedTokens) (c : Claim) : AssetSelection :=
  let receiver := c.destinationAddress
  if c.originAddress = Address.zero then
    match D.weth with
    | none => ⟨Address.zero, [.releaseNative receiver c.amount], none⟩
    | some weth => ⟨weth, [.mintWrapped weth receiver c.amount], none⟩
  else if D.config.effectiveGasToken?.any
      (fun g => g.network = c.originNetwork ∧ g.address = c.originAddress) then
    ⟨Address.zero, [.releaseNative receiver c.amount], none⟩
  else if c.originNetwork = D.config.networkId then
    ⟨c.originAddress, [.releaseTokens c.originAddress receiver c.amount], none⟩
  else
    let origin : TokenOrigin := ⟨c.originNetwork, c.originAddress⟩
    match wrapped.resolve? D.hasher origin with
    | some token => ⟨token, [.mintWrapped token receiver c.amount], none⟩
    | none =>
      let token := D.wrapping.address D.hasher origin c.metadata
      ⟨token, [.deployWrapped token c.metadata, .mintWrapped token receiver c.amount], some token⟩

/-- The effects of a message claim and the token credited: on networks with a gas token the value
    arrives as wrapped ether. -/
def selectMessage (D : Deployment) (c : Claim) : Address × List Effect :=
  let delivery (value : Amount) : Effect :=
    .deliverMessage c.destinationAddress c.originAddress c.originNetwork value c.metadata
  match D.weth with
  | none => (Address.zero, [delivery c.amount])
  | some weth => (weth, [.mintWrapped weth c.destinationAddress c.amount, delivery 0])

/-! ## Claims -/

/-- All checks of a claim; its key. -/
def admitClaim (D : Deployment) (kind : LeafKind) (c : Claim) : LedgerM σ ScopeKey := do
  requireOperational
  let l ← ledger
  let key ← ofResult (verifyClaim D l.roots kind c)
  require (!l.claimed.isClaimed key) .alreadyClaimed
  return key

/-- Marks the claim and tells of it. -/
def finishClaim (key : ScopeKey) (c : Claim) : LedgerM σ Unit := do
  let l ← ledger
  let claimed ← ofResult (l.claimed.mark key)
  change fun l => { l with claimed := claimed }
  emit (.claim
    { globalIndex := c.globalIndex.pack
      originNetwork := c.originNetwork
      originAddress := c.originAddress
      destinationAddress := c.destinationAddress
      amount := c.amount })

/-- Registers the wrapped token that a claim created, and tells of it. -/
def registerWrapped (D : Deployment) (c : Claim) (token : Address) : LedgerM σ Unit := do
  let l ← ledger
  let wrapped ← ofResult
    (l.wrapped.register D.hasher ⟨c.originNetwork, c.originAddress⟩ token)
  change fun l => { l with wrapped := wrapped }
  emit (.newWrappedToken
    { originNetwork := c.originNetwork
      originTokenAddress := c.originAddress
      wrappedTokenAddress := token
      metadata := c.metadata })

/-- Claims an asset. -/
def claimAsset [ExecutionHost σ] (D : Deployment) (c : Claim) : LedgerM σ ClaimReceipt := do
  let key ← admitClaim D .asset c
  let l ← ledger
  let selection := selectAsset D l.wrapped c
  discard <| perform .transferFailed selection.effects
  match selection.newWrappedToken with
  | some token => registerWrapped D c token
  | none => pure ()
  finishClaim key c
  return ⟨c.globalIndex.pack, selection.creditedToken, selection.newWrappedToken⟩

/-- Claims a message. -/
def claimMessage [ExecutionHost σ] (D : Deployment) (c : Claim) : LedgerM σ ClaimReceipt := do
  let key ← admitClaim D .message c
  let (creditedToken, effects) := selectMessage D c
  discard <| perform .messageFailed effects
  finishClaim key c
  return ⟨c.globalIndex.pack, creditedToken, none⟩

end ExitBridge
