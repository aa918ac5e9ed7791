/-
  The wire forms of requests to a node and of its responses.

  Every record is an object of its fields in order. In a bridge request the fields of the deposit
  stand beside the sender, and only the object is read, not a list of values.
-/
import ExitBridge.Node.Messages
import ExitBridge.Wire.Ledger

namespace ExitBridge

open Wire Members

/-! ## Requests -/

/-- Reads the members of an object. -/
def Members.ofObject? : Json → Option Members
  | .object ms => some ms
  | _ => none

instance : Wire BridgeAssetRequest where
  write r := .object (("sender", write r.sender) :: WireRecord.members r.deposit)
  read? j := do
    let ms ← Members.ofObject? j
    return ⟨← required ms "sender", ← WireRecord.ofMembers? ms⟩

instance : Wire BridgeMessageRequest where
  write r := .object (("sender", write r.sender) :: WireRecord.members r.deposit)
  read? j := do
    let ms ← Members.ofObject? j
    return ⟨← required ms "sender", ← WireRecord.ofMembers? ms⟩

instance : WireRecord ClaimRequest where
  slots := [("smt_proof_local_exit_root", false), ("smt_proof_rollup_exit_root", false),
    ("global_index", false), ("mainnet_exit_root", false), ("rollup_exit_root", false),
    ("origin_network", false), ("origin_address", false), ("destination_network", false),
    ("destination_address", false), ("amount", false), ("metadata", true)]
  members c := [("smt_proof_local_exit_root", write c.localPath),
    ("smt_proof_rollup_exit_root", write c.rollupPath), ("global_index", write c.globalIndex),
    ("mainnet_exit_root", write c.mainnetExitRoot), ("rollup_exit_root", write c.rollupExitRoot),
    ("origin_network", write c.originNetwork), ("origin_address", write c.originAddress),
    ("destination_network", write c.destinationNetwork),
    ("destination_address", write c.destinationAddress), ("amount", write c.amount),
    ("metadata", write c.metadata)]
  ofMembers? ms := do
    return ⟨← required ms "smt_proof_local_exit_root", ← required ms "smt_proof_rollup_exit_root",
      ← required ms "global_index", ← required ms "mainnet_exit_root",
      ← required ms "rollup_exit_root", ← required ms "origin_network",
      ← required ms "origin_address", ← required ms "destination_network",
      ← required ms "destination_address", ← required ms "amount",
      ← withDefault ms "metadata" []⟩

instance : WireRecord EventsQuery where
  slots := [("from", true), ("limit", false)]
  members q := [("from", write q.start), ("limit", write q.limit)]
  ofMembers? ms := do return ⟨← withDefault ms "from" 0, ← optional ms "limit"⟩

instance : WireRecord MintRequest where
  slots := [("token", false), ("holder", false), ("amount", false)]
  members r := [("token", write r.token), ("holder", write r.holder), ("amount", write r.amount)]
  ofMembers? ms := do
    return ⟨← required ms "token", ← required ms "holder", ← required ms "amount"⟩

/-! ## Responses -/

instance : WireRecord RootResponse where
  slots := [("network_id", false), ("local_exit_root", false), ("deposit_count", false),
    ("last_updated_deposit_count", false), ("mainnet_exit_root", false),
    ("rollup_exit_root", false), ("last_global_exit_root", false), ("l1_info_root", false),
    ("last_local_exit_root", false)]
  members r := [("network_id", write r.networkId), ("local_exit_root", write r.localExitRoot),
    ("deposit_count", write r.depositCount),
    ("last_updated_deposit_count", write r.lastUpdatedDepositCount),
    ("mainnet_exit_root", write r.mainnetExitRoot), ("rollup_exit_root", write r.rollupExitRoot),
    ("last_global_exit_root", write r.lastGlobalExitRoot), ("l1_info_root", write r.l1InfoRoot),
    ("last_local_exit_root", write r.lastLocalExitRoot)]
  ofMembers? ms := do
    return ⟨← required ms "network_id", ← required ms "local_exit_root",
      ← required ms "deposit_count", ← required ms "last_updated_deposit_count",
      ← optional ms "mainnet_exit_root", ← optional ms "rollup_exit_root",
      ← optional ms "last_global_exit_root", ← optional ms "l1_info_root",
      ← optional ms "last_local_exit_root"⟩

instance : WireRecord DepositCountResponse where
  slots := [("deposit_count", false), ("last_updated_deposit_count", false)]
  members r := [("deposit_count", write r.depositCount),
    ("last_updated_deposit_count", write r.lastUpdatedDepositCount)]
  ofMembers? ms := do
    return ⟨← required ms "deposit_count", ← required ms "last_updated_deposit_count"⟩

instance : WireRecord ProofResponse where
  slots := [("index", false), ("deposit_count", false), ("root", false), ("proof", false)]
  members r := [("index", write r.index), ("deposit_count", write r.depositCount),
    ("root", write r.root), ("proof", write r.proof)]
  ofMembers? ms := do
    return ⟨← required ms "index", ← required ms "deposit_count", ← required ms "root",
      ← required ms "proof"⟩

instance : WireRecord ClaimedResponse where
  slots := [("source_network", false), ("leaf_index", false), ("claimed", false)]
  members r := [("source_network", write r.sourceNetwork), ("leaf_index", write r.leafIndex),
    ("claimed", write r.claimed)]
  ofMembers? ms := do
    return ⟨← required ms "source_network", ← required ms "leaf_index",
      ← required ms "claimed"⟩

instance : WireRecord WrappedResponse where
  slots := [("origin_network", false), ("origin_token_address", false),
    ("wrapped_token_address", false)]
  members r := [("origin_network", write r.originNetwork),
    ("origin_token_address", write r.originTokenAddress),
    ("wrapped_token_address", write r.wrappedTokenAddress)]
  ofMembers? ms := do
    return ⟨← required ms "origin_network", ← required ms "origin_token_address",
      ← optional ms "wrapped_token_address"⟩

instance : WireRecord GlobalExitRootResponse where
  slots := [("global_exit_root", false), ("known", false), ("timestamp", false)]
  members r := [("global_exit_root", write r.globalExitRoot), ("known", write r.known),
    ("timestamp", write r.timestamp)]
  ofMembers? ms := do
    return ⟨← required ms "global_exit_root", ← required ms "known", ← optional ms "timestamp"⟩

instance : WireRecord GlobalExitRootUpdateResponse where
  slots := [("global_exit_root", false), ("last_updated_deposit_count", false)]
  members r := [("global_exit_root", write r.globalExitRoot),
    ("last_updated_deposit_count", write r.lastUpdatedDepositCount)]
  ofMembers? ms := do
    return ⟨← optional ms "global_exit_root", ← required ms "last_updated_deposit_count"⟩

instance : WireRecord EmergencyResponse where
  slots := [("emergency_state", false)]
  members r := [("emergency_state", write r.emergencyState)]
  ofMembers? ms := do return ⟨← required ms "emergency_state"⟩

instance : WireRecord BalanceResponse where
  slots := [("token", false), ("holder", false), ("balance", false)]
  members r := [("token", write r.token), ("holder", write r.holder),
    ("balance", write r.balance)]
  ofMembers? ms := do
    return ⟨← required ms "token", ← required ms "holder", ← required ms "balance"⟩

instance : WireRecord HealthResponse where
  slots := [("status", false), ("network_id", false), ("aggregator_authority", false),
    ("emergency_state", false), ("deposit_count", false), ("known_global_exit_roots", false),
    ("sync_cursor", false), ("last_sync_ok", false)]
  members r := [("status", write r.status), ("network_id", write r.networkId),
    ("aggregator_authority", write r.aggregatorAuthority),
    ("emergency_state", write r.emergencyState), ("deposit_count", write r.depositCount),
    ("known_global_exit_roots", write r.knownGlobalExitRoots),
    ("sync_cursor", write r.syncCursor), ("last_sync_ok", write r.lastSyncOk)]
  ofMembers? ms := do
    return ⟨← required ms "status", ← required ms "network_id",
      ← required ms "aggregator_authority", ← required ms "emergency_state",
      ← required ms "deposit_count", ← required ms "known_global_exit_roots",
      ← required ms "sync_cursor", ← required ms "last_sync_ok"⟩

instance : WireRecord ErrorResponse where
  slots := [("error", false), ("code", false)]
  members r := [("error", write r.error), ("code", write r.code)]
  ofMembers? ms := do return ⟨← required ms "error", ← required ms "code"⟩

end ExitBridge
