/-
  The settings of a node.

  * `Settings`: the ledger's network and role, the HTTP server, the peers, and the intervals.
  * `Settings.validate`: the first rule that settings break. Settings that pass describe a ledger
    that can be created, and rollup peers that belong to different networks.
  * `Settings.ledgerConfig`: the ledger's part.
  * `Settings.describe`: a line of text without secrets.
-/
import ExitBridge.Address
import ExitBridge.Config
import ExitBridge.GlobalIndex
import ExitBridge.Settings.Address
import ExitBridge.Settings.Peers

namespace ExitBridge

/-! ## Variables -/

/-- The environment variables that hold settings. -/
inductive Variable where
  | networkId
  | mainnetNetworkId
  | aggregatorAuthority
  | bridgeAddress
  | gasTokenAddress
  | gasTokenNetwork
  | gasTokenName
  | gasTokenSymbol
  | gasTokenDecimals
  | apiBindAddress
  | apiPort
  | adminToken
  | enableDevFaucet
  | peerUrl
  | rollupPeers
  | syncIntervalMs
  | rootUpdateIntervalMs
  | journalRetention
  deriving DecidableEq, Inhabited

namespace Variable

/-- The name of a variable. -/
def name : Variable → String
  | networkId => "NETWORK_ID"
  | mainnetNetworkId => "MAINNET_NETWORK_ID"
  | aggregatorAuthority => "AGGREGATOR_AUTHORITY"
  | bridgeAddress => "BRIDGE_ADDRESS"
  | gasTokenAddress => "GAS_TOKEN_ADDRESS"
  | gasTokenNetwork => "GAS_TOKEN_NETWORK"
  | gasTokenName => "GAS_TOKEN_NAME"
  | gasTokenSymbol => "GAS_TOKEN_SYMBOL"
  | gasTokenDecimals => "GAS_TOKEN_DECIMALS"
  | apiBindAddress => "API_BIND_ADDRESS"
  | apiPort => "API_PORT"
  | adminToken => "ADMIN_TOKEN"
  | enableDevFaucet => "ENABLE_DEV_FAUCET"
  | peerUrl => "PEER_URL"
  | rollupPeers => "ROLLUP_PEERS"
  | syncIntervalMs => "SYNC_INTERVAL_MS"
  | rootUpdateIntervalMs => "ROOT_UPDATE_INTERVAL_MS"
  | journalRetention => "JOURNAL_RETENTION"

/-- All variables. -/
def all : List Variable :=
  [networkId, mainnetNetworkId, aggregatorAuthority, bridgeAddress, gasTokenAddress,
    gasTokenNetwork, gasTokenName, gasTokenSymbol, gasTokenDecimals, apiBindAddress, apiPort,
    adminToken, enableDevFaucet, peerUrl, rollupPeers, syncIntervalMs, rootUpdateIntervalMs,
    journalRetention]

end Variable

/-! ## Errors -/

/-- Why settings cannot be used. -/
inductive SettingsError where
  | missing (v : Variable)
  | invalid (v : Variable) (text : String)
  | address (v : Variable) (cause : AddressError)
  | peerList (cause : PeerListError)
  | roleMismatch (networkId mainnetNetworkId : UInt32)
  | peerOfAuthority
  | rollupPeersOfReplica
  | noSyncInterval
  | duplicatePeer (rollupIndex : UInt32)
  | peerWithoutNetwork (rollupIndex : UInt32)
  | peerOnMainnet (rollupIndex network : UInt32)
  | ledger (cause : LedgerError)
  deriving DecidableEq, Inhabited

/-- The wording of an error. -/
def SettingsError.message : SettingsError → String
  | missing v => s!"{v.name} required"
  | invalid v text => s!"Invalid {v.name}: {text}"
  | address v cause => s!"Invalid {v.name}: {cause.message}"
  | peerList cause => cause.message
  | roleMismatch networkId mainnetNetworkId =>
    s!"AGGREGATOR_AUTHORITY must be true exactly when NETWORK_ID ({networkId}) equals " ++
      s!"MAINNET_NETWORK_ID ({mainnetNetworkId})"
  | peerOfAuthority => "PEER_URL is only used by replica nodes"
  | rollupPeersOfReplica => "ROLLUP_PEERS is only used by the aggregator authority"
  | noSyncInterval => "SYNC_INTERVAL_MS must be greater than zero"
  | duplicatePeer rollupIndex => s!"Duplicate rollup index {rollupIndex} in ROLLUP_PEERS"
  | peerWithoutNetwork rollupIndex => s!"Rollup index {rollupIndex} has no network id"
  | peerOnMainnet rollupIndex network =>
    s!"Rollup index {rollupIndex} maps to network {network}, which is the mainnet network"
  | ledger cause => s!"Invalid ledger configuration: {cause.message}"

/-! ## Settings -/

/-- The settings of a node. -/
structure Settings where
  networkId : UInt32
  mainnetNetworkId : UInt32
  aggregatorAuthority : Bool
  bridgeAddress : Address
  gasToken : Option GasToken
  apiBindAddress : String
  apiPort : UInt16
  /-- What deposits and admin requests must present; without it they are refused. -/
  adminToken : Option String
  /-- Anybody may create balances. -/
  enableDevFaucet : Bool
  /-- The authority that a replica takes global exit roots from. -/
  peerUrl : Option String
  /-- The rollups whose exit roots an authority folds in. -/
  rollupPeers : List RollupPeer
  /-- Milliseconds between polls of the peers. -/
  syncIntervalMs : Nat
  /-- Milliseconds between publications of the exit root; zero for none. -/
  rootUpdateIntervalMs : Nat
  journalRetention : Option Nat
  deriving DecidableEq, Inhabited

namespace Settings

/-- The ledger's part of the settings. -/
def ledgerConfig (s : Settings) : LedgerConfig :=
  let base :=
    if s.aggregatorAuthority then LedgerConfig.authority s.networkId s.bridgeAddress
    else LedgerConfig.replica s.networkId s.mainnetNetworkId s.bridgeAddress
  { base with gasToken := s.gasToken, journalRetention := s.journalRetention }

/-! ## Validation -/

/-- Peers that follow those with the indexes `seen`: no index twice, and every index belongs to a
    network that is not the mainnet. -/
def validatePeers (mainnet : UInt32) (seen : List UInt32) :
    List RollupPeer → Except SettingsError Unit
  | [] => .ok ()
  | p :: peers =>
    if p.rollupIndex ∈ seen then .error (.duplicatePeer p.rollupIndex)
    else
      match rollupNetworkId p.rollupIndex with
      | .error _ => .error (.peerWithoutNetwork p.rollupIndex)
      | .ok network =>
        if network = mainnet then .error (.peerOnMainnet p.rollupIndex network)
        else validatePeers mainnet (p.rollupIndex :: seen) peers

/-- The first rule that the settings break. -/
def validate (s : Settings) : Except SettingsError Unit := do
  if s.aggregatorAuthority ≠ (s.networkId == s.mainnetNetworkId) then
    throw (.roleMismatch s.networkId s.mainnetNetworkId)
  if s.aggregatorAuthority ∧ s.peerUrl.isSome then throw .peerOfAuthority
  if ¬ s.aggregatorAuthority ∧ s.rollupPeers ≠ [] then throw .rollupPeersOfReplica
  if s.syncIntervalMs = 0 then throw .noSyncInterval
  validatePeers s.mainnetNetworkId [] s.rollupPeers
  s.ledgerConfig.validate.mapError .ledger

/-! ## Description -/

/-- A gas token in a line of text. -/
def describeGasToken (g : GasToken) : String :=
  Text.describedRecord "GasTokenConfig"
    [("address", g.address.lower), ("network", toString g.network),
      ("metadata", Text.describedRecord "TokenMetadata"
        [("name", Text.quoted g.metadata.name), ("symbol", Text.quoted g.metadata.symbol),
          ("decimals", toString g.metadata.decimals)])]

/-- The settings in a line of text, without the admin token and without users and passwords. -/
def describe (s : Settings) : String :=
  Text.describedRecord "Config"
    [("network_id", toString s.networkId), ("mainnet_network_id", toString s.mainnetNetworkId),
      ("aggregator_authority", toString s.aggregatorAuthority),
      ("bridge_address", s.bridgeAddress.lower),
      ("gas_token", Text.describedOption describeGasToken s.gasToken),
      ("api_bind_address", Text.quoted s.apiBindAddress), ("api_port", toString s.apiPort),
      ("admin_token", Text.describedOption (fun _ => Text.quoted "<redacted>") s.adminToken),
      ("enable_dev_faucet", toString s.enableDevFaucet),
      ("peer_url", Text.describedOption (fun url => Text.quoted (redactUrl url)) s.peerUrl),
      ("rollup_peers", Text.describedList RollupPeer.describe s.rollupPeers),
      ("sync_interval_ms", toString s.syncIntervalMs),
      ("root_update_interval_ms", toString s.rootUpdateIntervalMs),
      ("journal_retention", Text.describedOption (toString ·) s.journalRetention)]

end Settings

end ExitBridge
