/-
  The wire forms of a node's settings.

  Settings are an object of their fields in order. The admin token is written as it is, so the text
  is for the operator only; `Settings.describe` is the form without secrets.
-/
import ExitBridge.Settings.Basic
import ExitBridge.Wire.Ledger

namespace ExitBridge

open Wire Members

instance : WireRecord RollupPeer where
  slots := [("rollup_index", false), ("url", false)]
  members p := [("rollup_index", write p.rollupIndex), ("url", write p.url)]
  ofMembers? ms := do return ⟨← required ms "rollup_index", ← required ms "url"⟩

instance : WireRecord Settings where
  slots := [("network_id", false), ("mainnet_network_id", false), ("aggregator_authority", false),
    ("bridge_address", false), ("gas_token", false), ("api_bind_address", false),
    ("api_port", false), ("admin_token", false), ("enable_dev_faucet", false),
    ("peer_url", false), ("rollup_peers", false), ("sync_interval_ms", false),
    ("root_update_interval_ms", false), ("journal_retention", false)]
  members s := [("network_id", write s.networkId),
    ("mainnet_network_id", write s.mainnetNetworkId),
    ("aggregator_authority", write s.aggregatorAuthority),
    ("bridge_address", write s.bridgeAddress), ("gas_token", write s.gasToken),
    ("api_bind_address", write s.apiBindAddress), ("api_port", write s.apiPort),
    ("admin_token", write s.adminToken), ("enable_dev_faucet", write s.enableDevFaucet),
    ("peer_url", write s.peerUrl), ("rollup_peers", write s.rollupPeers),
    ("sync_interval_ms", write s.syncIntervalMs),
    ("root_update_interval_ms", write s.rootUpdateIntervalMs),
    ("journal_retention", write s.journalRetention)]
  ofMembers? ms := do
    return ⟨← required ms "network_id", ← required ms "mainnet_network_id",
      ← required ms "aggregator_authority", ← required ms "bridge_address",
      ← optional ms "gas_token", ← required ms "api_bind_address", ← required ms "api_port",
      ← optional ms "admin_token", ← required ms "enable_dev_faucet", ← optional ms "peer_url",
      ← required ms "rollup_peers", ← required ms "sync_interval_ms",
      ← required ms "root_update_interval_ms", ← optional ms "journal_retention"⟩

end ExitBridge
