/-
  Settings from environment variables.

  Numbers and switches may have blanks around them; the text of an invalid one is quoted as it is.
  The gas token is configured by its address, and then needs its network, name and symbol.

  * `Settings.ofEnvironment`: the settings, or the first variable that is missing or invalid.
-/
import ExitBridge.Settings.Basic

namespace ExitBridge

/-- The text of each variable that is set. -/
abbrev Environment := Variable → Option String

namespace Environment

variable (env : Environment)

/-- A text that must be there. -/
def text (v : Variable) : Except SettingsError String :=
  match env v with
  | none => .error (.missing v)
  | some raw => .ok raw

/-- A number below a limit, if the variable is set. -/
def integer? (v : Variable) (limit : Nat) : Except SettingsError (Option Nat) :=
  match env v with
  | none => .ok none
  | some raw =>
    match Text.readInteger? limit (Text.trim raw.toList) with
    | some n => .ok (some n)
    | none => .error (.invalid v raw)

/-- A number below a limit that must be there. -/
def integer (v : Variable) (limit : Nat) : Except SettingsError Nat := do
  match ← integer? env v limit with
  | some n => return n
  | none => throw (.missing v)

/-- The value of a switch. -/
def readSwitch? (word : String) : Option Bool :=
  if word ∈ ["1", "true", "yes"] then some true
  else if word ∈ ["0", "false", "no"] then some false
  else none

/-- A switch, which is off if the variable is not set. -/
def switch (v : Variable) : Except SettingsError Bool :=
  match env v with
  | none => .ok false
  | some raw =>
    match readSwitch? (String.ofList ((Text.trim raw.toList).map Char.toLower)) with
    | some b => .ok b
    | none => .error (.invalid v raw)

/-- A text without the blanks around it, if any of it is left. -/
def trimmed? (v : Variable) : Option String :=
  ((env v).map fun raw => String.ofList (Text.trim raw.toList)).filter (!·.isEmpty)

/-- An address. -/
def address (v : Variable) (raw : String) : Except SettingsError Address :=
  (Address.ofSetting raw).mapError (.address v)

/-- The gas token, if its address is set. -/
def gasToken? : Except SettingsError (Option GasToken) := do
  match env .gasTokenAddress with
  | none => return none
  | some raw =>
    let token ← address .gasTokenAddress raw
    let network ← integer env .gasTokenNetwork (2 ^ 32)
    let name ← text env .gasTokenName
    let symbol ← text env .gasTokenSymbol
    let decimals ← integer? env .gasTokenDecimals (2 ^ 8)
    return some ⟨token, UInt32.ofNat network, ⟨name, symbol, UInt8.ofNat (decimals.getD 18)⟩⟩

/-- The rollup peers; none if the variable is not set. -/
def rollupPeers : Except SettingsError (List RollupPeer) :=
  match env .rollupPeers with
  | none => .ok []
  | some raw => (RollupPeer.parseList raw).mapError .peerList

/-- The URL of the authority, without slashes at its end. -/
def peerUrl? : Option String :=
  ((env .peerUrl).map fun raw => String.ofList (trimUrl raw.toList)).filter (!·.isEmpty)

end Environment

/-- The settings that the variables hold. -/
def Settings.ofEnvironment (env : Environment) : Except SettingsError Settings := do
  let networkId ← env.integer .networkId (2 ^ 32)
  let bridgeAddress ← Environment.address .bridgeAddress (← env.text .bridgeAddress)
  let mainnetNetworkId ← env.integer? .mainnetNetworkId (2 ^ 32)
  let aggregatorAuthority ← env.switch .aggregatorAuthority
  let gasToken ← env.gasToken?
  let apiPort ← env.integer? .apiPort (2 ^ 16)
  let enableDevFaucet ← env.switch .enableDevFaucet
  let rollupPeers ← env.rollupPeers
  let syncIntervalMs ← env.integer? .syncIntervalMs (2 ^ 64)
  let rootUpdateIntervalMs ← env.integer? .rootUpdateIntervalMs (2 ^ 64)
  let journalRetention ← env.integer? .journalRetention (2 ^ 64)
  return {
    networkId := UInt32.ofNat networkId
    mainnetNetworkId := UInt32.ofNat (mainnetNetworkId.getD 0)
    aggregatorAuthority := aggregatorAuthority
    bridgeAddress := bridgeAddress
    gasToken := gasToken
    apiBindAddress := (env .apiBindAddress).getD "127.0.0.1"
    apiPort := UInt16.ofNat (apiPort.getD 9100)
    adminToken := env.trimmed? .adminToken
    enableDevFaucet := enableDevFaucet
    peerUrl := env.peerUrl?
    rollupPeers := rollupPeers
    syncIntervalMs := syncIntervalMs.getD 2000
    rootUpdateIntervalMs := rootUpdateIntervalMs.getD 10000
    journalRetention := journalRetention }

end ExitBridge
