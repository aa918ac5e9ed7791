/-
  What a ledger is configured with.

  * `LedgerConfig`: the network, the mainnet it takes global exit roots from, the bridge's address,
    the role, the gas token, and what is kept.
  * `LedgerConfig.validate`: the first rule that a configuration breaks.
  * `LedgerConfig.effectiveGasToken?`: a gas token with the zero address means ether, which is none.
-/
import ExitBridge.Error
import ExitBridge.Bytes.Fixed
import ExitBridge.TokenMetadata

namespace ExitBridge

/-- The native token of a network whose gas is not ether. -/
structure GasToken where
  address : Address
  network : UInt32
  metadata : TokenMetadata
  deriving DecidableEq, Inhabited

/-- The switches that follow from a configuration. -/
structure Capabilities where
  supportsGasToken : Bool
  isAggregatorAuthority : Bool
  deriving DecidableEq, Inhabited

/-- What a ledger is configured with. -/
structure LedgerConfig where
  networkId : UInt32
  /-- The network ether comes from, whose exit root is the mainnet half of global exit roots. -/
  mainnetNetworkId : UInt32
  /-- Holder of the escrow, spender of permits, deployer of wrapped tokens. -/
  bridgeAddress : Address
  isAggregatorAuthority : Bool
  gasToken : Option GasToken
  wrappedTokenTemplate : Bytes
  /-- How many events the journal keeps; all of them if not given. -/
  journalRetention : Option Nat
  deriving DecidableEq, Inhabited

namespace LedgerConfig

/-- The init code in front of the metadata, if none is configured. -/
def defaultTemplate : Bytes :=
  "exit-ledger/wrapped-token/v1".toUTF8.toList

/-- The network that publishes global exit roots. -/
def authority (networkId : UInt32) (bridgeAddress : Address) : LedgerConfig :=
  ⟨networkId, networkId, bridgeAddress, true, none, defaultTemplate, none⟩

/-- A network that takes its global exit roots from the mainnet. -/
def replica (networkId mainnetNetworkId : UInt32) (bridgeAddress : Address) : LedgerConfig :=
  ⟨networkId, mainnetNetworkId, bridgeAddress, false, none, defaultTemplate, none⟩

/-- The authority of network zero, with a bridge address of its own. -/
def standard : LedgerConfig :=
  authority 0 ⟨List.replicate 20 0xb0, List.length_replicate⟩

/-- The gas token, unless its address is zero, which means ether. -/
def effectiveGasToken? (c : LedgerConfig) : Option GasToken :=
  c.gasToken.filter (·.address ≠ Address.zero)

/-- The switches that follow from the configuration. -/
def capabilities (c : LedgerConfig) : Capabilities :=
  ⟨c.effectiveGasToken?.isSome, c.isAggregatorAuthority⟩

/-- The first rule that the configuration breaks. -/
def validate (c : LedgerConfig) : Except LedgerError Unit :=
  if c.bridgeAddress = Address.zero then
    .error (.invalidConfig "bridge address must not be zero")
  else if c.wrappedTokenTemplate = [] then
    .error (.invalidConfig "wrapped token template must not be empty")
  else if c.isAggregatorAuthority ≠ (c.networkId == c.mainnetNetworkId) then
    .error (.invalidConfig (s!"network {c.networkId} must be the aggregator authority exactly " ++
      s!"when it is the mainnet network {c.mainnetNetworkId}"))
  else if c.journalRetention = some 0 then
    .error (.invalidConfig "journal retention must be at least one event")
  else if c.gasToken.any (fun g => g.address = Address.zero ∧ g.network ≠ c.mainnetNetworkId) then
    .error .gasTokenNetworkMustBeZeroOnEther
  else .ok ()

end LedgerConfig

end ExitBridge
