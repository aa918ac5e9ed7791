/-
  The wire forms of the ledger's types.

  Every record is an object of its fields in order. Effects and events are objects that also hold a
  tag: `kind` for effects, `type` for events.
-/
import ExitBridge.Execution.Book
import ExitBridge.Ledger.Claim
import ExitBridge.Ledger.Deposit
import ExitBridge.Wire.Basic

namespace ExitBridge

open Wire Members

/-! ## Leaves, tokens, indexes -/

/-- A kind is its name; an object with the name as its only member, holding null, is read too. -/
instance : Wire LeafKind where
  write k := .string k.name
  read?
    | .string "asset" => some .asset
    | .string "message" => some .message
    | .object [("asset", .null)] => some .asset
    | .object [("message", .null)] => some .message
    | _ => none

/-- In an event the object may also hold an object without members. -/
def LeafKind.readInEvent? : Json → Option LeafKind
  | .object [(name, .object [])] => Wire.read? (.string name)
  | j => Wire.read? j

instance : WireRecord Leaf where
  slots := [("leaf_type", false), ("origin_network", false), ("origin_address", false),
    ("destination_network", false), ("destination_address", false), ("amount", false),
    ("metadata_hash", false)]
  members l := [("leaf_type", write l.kind), ("origin_network", write l.originNetwork),
    ("origin_address", write l.originAddress),
    ("destination_network", write l.destinationNetwork),
    ("destination_address", write l.destinationAddress), ("amount", write l.amount),
    ("metadata_hash", write l.metadataHash)]
  ofMembers? ms := do
    return ⟨← required ms "leaf_type", ← required ms "origin_network",
      ← required ms "origin_address", ← required ms "destination_network",
      ← required ms "destination_address", ← required ms "amount", ← required ms "metadata_hash"⟩

instance : WireRecord TokenMetadata where
  slots := [("name", false), ("symbol", false), ("decimals", false)]
  members m := [("name", write m.name), ("symbol", write m.symbol), ("decimals", write m.decimals)]
  ofMembers? ms := do
    return ⟨← required ms "name", ← required ms "symbol", ← required ms "decimals"⟩

instance : WireRecord TokenOrigin where
  slots := [("origin_network", false), ("origin_token_address", false)]
  members o := [("origin_network", write o.network), ("origin_token_address", write o.token)]
  ofMembers? ms := do
    return ⟨← required ms "origin_network", ← required ms "origin_token_address"⟩

instance : WireRecord GlobalIndex where
  slots := [("mainnet_flag", false), ("rollup_index", false), ("leaf_index", false)]
  members g := [("mainnet_flag", write g.mainnetFlag), ("rollup_index", write g.rollupIndex),
    ("leaf_index", write g.leafIndex)]
  ofMembers? ms := do
    return ⟨← required ms "mainnet_flag", ← required ms "rollup_index",
      ← required ms "leaf_index"⟩

/-! ## Trees and exit roots -/

instance : Wire InclusionPath where
  write p := write p.siblings
  read? j := (Wire.read? j).bind InclusionPath.ofList?

instance : Wire (Vector Digest treeDepth) where
  write v := write v.toList
  read? j := do
    let items : List Digest ← Wire.read? j
    if h : items.length = treeDepth then some ⟨items.toArray, by simpa using h⟩ else none

instance : WireRecord TreeSnapshot where
  slots := [("frontier", false), ("deposit_count", false), ("full_root", false)]
  members s := [("frontier", write s.frontier), ("deposit_count", write s.depositCount),
    ("full_root", write s.fullRoot)]
  ofMembers? ms := do
    return ⟨← required ms "frontier", ← required ms "deposit_count", ← optional ms "full_root"⟩

instance : WireRecord BlockContext where
  slots := [("timestamp", false), ("block_hash", false)]
  members b := [("timestamp", write b.timestamp), ("block_hash", write b.blockHash)]
  ofMembers? ms := do return ⟨← required ms "timestamp", ← required ms "block_hash"⟩

instance : WireRecord GlobalExitRoot where
  slots := [("mainnet_exit_root", false), ("rollup_exit_root", false)]
  members r := [("mainnet_exit_root", write r.mainnetExitRoot),
    ("rollup_exit_root", write r.rollupExitRoot)]
  ofMembers? ms := do
    return ⟨← required ms "mainnet_exit_root", ← required ms "rollup_exit_root"⟩

instance : WireRecord GlobalExitRootRecord where
  slots := [("roots", false), ("timestamp", false), ("l1_info_index", false)]
  members r := [("roots", write r.roots), ("timestamp", write r.timestamp),
    ("l1_info_index", write r.l1InfoIndex)]
  ofMembers? ms := do
    return ⟨← required ms "roots", ← required ms "timestamp", ← required ms "l1_info_index"⟩

instance : WireRecord L1InfoLeaf where
  slots := [("global_exit_root", false), ("block_hash", false), ("timestamp", false)]
  members l := [("global_exit_root", write l.globalExitRoot), ("block_hash", write l.blockHash),
    ("timestamp", write l.timestamp)]
  ofMembers? ms := do
    return ⟨← required ms "global_exit_root", ← required ms "block_hash",
      ← required ms "timestamp"⟩

/-! ## Configuration -/

instance : WireRecord GasToken where
  slots := [("address", false), ("network", false), ("metadata", false)]
  members g := [("address", write g.address), ("network", write g.network),
    ("metadata", write g.metadata)]
  ofMembers? ms := do
    return ⟨← required ms "address", ← required ms "network", ← required ms "metadata"⟩

instance : WireRecord Capabilities where
  slots := [("supports_gas_token", false), ("is_aggregator_authority", false)]
  members c := [("supports_gas_token", write c.supportsGasToken),
    ("is_aggregator_authority", write c.isAggregatorAuthority)]
  ofMembers? ms := do
    return ⟨← required ms "supports_gas_token", ← required ms "is_aggregator_authority"⟩

instance : WireRecord LedgerConfig where
  slots := [("network_id", false), ("mainnet_network_id", false), ("bridge_address", false),
    ("is_aggregator_authority", false), ("gas_token", false), ("wrapped_token_template", false),
    ("journal_retention", true)]
  members c := [("network_id", write c.networkId),
    ("mainnet_network_id", write c.mainnetNetworkId), ("bridge_address", write c.bridgeAddress),
    ("is_aggregator_authority", write c.isAggregatorAuthority), ("gas_token", write c.gasToken),
    ("wrapped_token_template", write c.wrappedTokenTemplate),
    ("journal_retention", write c.journalRetention)]
  ofMembers? ms := do
    return ⟨← required ms "network_id", ← required ms "mainnet_network_id",
      ← required ms "bridge_address", ← required ms "is_aggregator_authority",
      ← optional ms "gas_token", ← required ms "wrapped_token_template",
      ← optional ms "journal_retention"⟩

/-! ## Effects -/

instance : WireRecord Permit where
  slots := [("owner", false), ("spender", false), ("value", false), ("deadline", false),
    ("signature", false)]
  members p := [("owner", write p.owner), ("spender", write p.spender), ("value", write p.value),
    ("deadline", write p.deadline), ("signature", write p.signature)]
  ofMembers? ms := do
    return ⟨← required ms "owner", ← required ms "spender", ← required ms "value",
      ← required ms "deadline", ← required ms "signature"⟩

instance : WireRecord MessageDelivery where
  slots := [("to", false), ("origin_address", false), ("origin_network", false),
    ("value", false), ("payload", false)]
  members d := [("to", write d.receiver), ("origin_address", write d.originAddress),
    ("origin_network", write d.originNetwork), ("value", write d.value),
    ("payload", write d.payload)]
  ofMembers? ms := do
    return ⟨← required ms "to", ← required ms "origin_address", ← required ms "origin_network",
      ← required ms "value", ← required ms "payload"⟩

namespace Effect

/-- The tag and the members of an effect. -/
def members : Effect → Members
  | lockNative sender amount =>
    [("kind", .string "lock_native"), ("from", write sender), ("amount", write amount)]
  | pullTokens token sender amount permit =>
    [("kind", .string "pull_tokens"), ("token", write token), ("from", write sender),
      ("amount", write amount), ("permit", write permit)]
  | burnWrapped token sender amount =>
    [("kind", .string "burn_wrapped"), ("token", write token), ("from", write sender),
      ("amount", write amount)]
  | releaseNative receiver amount =>
    [("kind", .string "release_native"), ("to", write receiver), ("amount", write amount)]
  | releaseTokens token receiver amount =>
    [("kind", .string "release_tokens"), ("token", write token), ("to", write receiver),
      ("amount", write amount)]
  | deployWrapped token metadata =>
    [("kind", .string "deploy_wrapped"), ("token", write token), ("metadata", write metadata)]
  | mintWrapped token receiver amount =>
    [("kind", .string "mint_wrapped"), ("token", write token), ("to", write receiver),
      ("amount", write amount)]
  | deliverMessage receiver originAddress originNetwork value payload =>
    [("kind", .string "deliver_message"), ("to", write receiver),
      ("origin_address", write originAddress), ("origin_network", write originNetwork),
      ("value", write value), ("payload", write payload)]

/-- The cases of an effect, by tag. -/
def variants : List (Variant Effect) :=
  [{ tag := "lock_native"
     slots := [("from", false), ("amount", false)]
     ofMembers? ms := do return lockNative (← required ms "from") (← required ms "amount") },
   { tag := "pull_tokens"
     slots := [("token", false), ("from", false), ("amount", false), ("permit", false)]
     ofMembers? ms := do
      return pullTokens (← required ms "token") (← required ms "from") (← required ms "amount")
        (← optional ms "permit") },
   { tag := "burn_wrapped"
     slots := [("token", false), ("from", false), ("amount", false)]
     ofMembers? ms := do
      return burnWrapped (← required ms "token") (← required ms "from")
        (← required ms "amount") },
   { tag := "release_native"
     slots := [("to", false), ("amount", false)]
     ofMembers? ms := do return releaseNative (← required ms "to") (← required ms "amount") },
   { tag := "release_tokens"
     slots := [("token", false), ("to", false), ("amount", false)]
     ofMembers? ms := do
      return releaseTokens (← required ms "token") (← required ms "to")
        (← required ms "amount") },
   { tag := "deploy_wrapped"
     slots := [("token", false), ("metadata", false)]
     ofMembers? ms := do return deployWrapped (← required ms "token") (← required ms "metadata") },
   { tag := "mint_wrapped"
     slots := [("token", false), ("to", false), ("amount", false)]
     ofMembers? ms := do
      return mintWrapped (← required ms "token") (← required ms "to") (← required ms "amount") },
   { tag := "deliver_message"
     slots := [("to", false), ("origin_address", false), ("origin_network", false),
      ("value", false), ("payload", false)]
     ofMembers? ms := do
      return deliverMessage (← required ms "to") (← required ms "origin_address")
        (← required ms "origin_network") (← required ms "value") (← required ms "payload") }]

end Effect

instance : Wire Effect := ⟨fun e => .object e.members, readTagged "kind" Effect.variants⟩

/-! ## Events -/

instance : WireRecord BridgeEvent where
  slots := [("leaf_type", false), ("origin_network", false), ("origin_address", false),
    ("destination_network", false), ("destination_address", false), ("amount", false),
    ("metadata", false), ("deposit_count", false)]
  members e := [("leaf_type", write e.kind), ("origin_network", write e.originNetwork),
    ("origin_address", write e.originAddress),
    ("destination_network", write e.destinationNetwork),
    ("destination_address", write e.destinationAddress), ("amount", write e.amount),
    ("metadata", write e.metadata), ("deposit_count", write e.depositCount)]
  ofMembers? ms := do
    return ⟨← (← ms.find? "leaf_type").bind LeafKind.readInEvent?, ← required ms "origin_network",
      ← required ms "origin_address", ← required ms "destination_network",
      ← required ms "destination_address", ← required ms "amount", ← required ms "metadata",
      ← required ms "deposit_count"⟩

instance : WireRecord ClaimEvent where
  slots := [("global_index", false), ("origin_network", false), ("origin_address", false),
    ("destination_address", false), ("amount", false)]
  members e := [("global_index", write e.globalIndex), ("origin_network", write e.originNetwork),
    ("origin_address", write e.originAddress),
    ("destination_address", write e.destinationAddress), ("amount", write e.amount)]
  ofMembers? ms := do
    return ⟨← required ms "global_index", ← required ms "origin_network",
      ← required ms "origin_address", ← required ms "destination_address",
      ← required ms "amount"⟩

instance : WireRecord NewWrappedToken where
  slots := [("origin_network", false), ("origin_token_address", false),
    ("wrapped_token_address", false), ("metadata", false)]
  members e := [("origin_network", write e.originNetwork),
    ("origin_token_address", write e.originTokenAddress),
    ("wrapped_token_address", write e.wrappedTokenAddress), ("metadata", write e.metadata)]
  ofMembers? ms := do
    return ⟨← required ms "origin_network", ← required ms "origin_token_address",
      ← required ms "wrapped_token_address", ← required ms "metadata"⟩

instance : WireRecord L1InfoTreeUpdate where
  slots := [("mainnet_exit_root", false), ("rollup_exit_root", false),
    ("global_exit_root", false), ("l1_info_index", false), ("l1_info_root", false),
    ("timestamp", false)]
  members e := [("mainnet_exit_root", write e.mainnetExitRoot),
    ("rollup_exit_root", write e.rollupExitRoot), ("global_exit_root", write e.globalExitRoot),
    ("l1_info_index", write e.l1InfoIndex), ("l1_info_root", write e.l1InfoRoot),
    ("timestamp", write e.timestamp)]
  ofMembers? ms := do
    return ⟨← required ms "mainnet_exit_root", ← required ms "rollup_exit_root",
      ← required ms "global_exit_root", ← required ms "l1_info_index",
      ← required ms "l1_info_root", ← required ms "timestamp"⟩

namespace Event

/-- The case of a sum whose only value is a record. -/
def variant {α : Type} [WireRecord α] (tag : String) (make : α → Event) : Variant Event :=
  ⟨tag, WireRecord.slots α, fun ms => (WireRecord.ofMembers? ms).map make⟩

/-- The tag and the members of an event. -/
def members : Event → Members
  | bridge e => ("type", .string "bridge") :: WireRecord.members e
  | claim e => ("type", .string "claim") :: WireRecord.members e
  | newWrappedToken e => ("type", .string "new_wrapped_token") :: WireRecord.members e
  | updateL1InfoTree e => ("type", .string "update_l1_info_tree") :: WireRecord.members e
  | emergencyStateActivated => [("type", .string "emergency_state_activated")]
  | emergencyStateDeactivated => [("type", .string "emergency_state_deactivated")]

/-- The cases of an event, by tag. -/
def variants : List (Variant Event) :=
  [variant "bridge" bridge, variant "claim" claim, variant "new_wrapped_token" newWrappedToken,
    variant "update_l1_info_tree" updateL1InfoTree,
    ⟨"emergency_state_activated", [], fun _ => some emergencyStateActivated⟩,
    ⟨"emergency_state_deactivated", [], fun _ => some emergencyStateDeactivated⟩]

end Event

instance : Wire Event := ⟨fun e => .object e.members, readTagged "type" Event.variants⟩

instance : WireRecord JournalEntry where
  slots := [("cursor", false), ("event", false)]
  members e := [("cursor", write e.cursor), ("event", write e.event)]
  ofMembers? ms := do return ⟨← required ms "cursor", ← required ms "event"⟩

instance : WireRecord EventBatch where
  slots := [("entries", false), ("next_cursor", false)]
  members b := [("entries", write b.entries), ("next_cursor", write b.nextCursor)]
  ofMembers? ms := do return ⟨← required ms "entries", ← required ms "next_cursor"⟩

/-! ## Deposits and claims -/

instance : WireRecord AssetDeposit where
  slots := [("destination_network", false), ("destination_address", false), ("amount", false),
    ("token", false), ("value", true), ("force_update_global_exit_root", true),
    ("permit", true)]
  members d := [("destination_network", write d.destinationNetwork),
    ("destination_address", write d.destinationAddress), ("amount", write d.amount),
    ("token", write d.token), ("value", write d.value),
    ("force_update_global_exit_root", write d.forceUpdate), ("permit", write d.permit)]
  ofMembers? ms := do
    return ⟨← required ms "destination_network", ← required ms "destination_address",
      ← required ms "amount", ← required ms "token", ← withDefault ms "value" 0,
      ← withDefault ms "force_update_global_exit_root" false, ← optional ms "permit"⟩

instance : WireRecord MessageDeposit where
  slots := [("destination_network", false), ("destination_address", false), ("value", true),
    ("force_update_global_exit_root", true), ("metadata", true)]
  members d := [("destination_network", write d.destinationNetwork),
    ("destination_address", write d.destinationAddress), ("value", write d.value),
    ("force_update_global_exit_root", write d.forceUpdate), ("metadata", write d.metadata)]
  ofMembers? ms := do
    return ⟨← required ms "destination_network", ← required ms "destination_address",
      ← withDefault ms "value" 0, ← withDefault ms "force_update_global_exit_root" false,
      ← withDefault ms "metadata" []⟩

instance : WireRecord DepositReceipt where
  slots := [("deposit_count", false), ("leaf_hash", false), ("amount", false),
    ("global_exit_root", false)]
  members r := [("deposit_count", write r.depositCount), ("leaf_hash", write r.leafHash),
    ("amount", write r.amount), ("global_exit_root", write r.globalExitRoot)]
  ofMembers? ms := do
    return ⟨← required ms "deposit_count", ← required ms "leaf_hash", ← required ms "amount",
      ← optional ms "global_exit_root"⟩

instance : WireRecord Claim where
  slots := [("smt_proof_local_exit_root", false), ("smt_proof_rollup_exit_root", false),
    ("global_index", false), ("mainnet_exit_root", false), ("rollup_exit_root", false),
    ("origin_network", false), ("origin_address", false), ("destination_network", false),
    ("destination_address", false), ("amount", false), ("metadata", false)]
  members c := [("smt_proof_local_exit_root", write c.localPath),
    ("smt_proof_rollup_exit_root", write c.rollupPath), ("global_index", write c.globalIndex),
    ("mainnet_exit_root", write c.mainnetExitRoot), ("rollup_exit_root", write c.rollupExitRoot),
    ("origin_network", write c.originNetwork), ("origin_address", write c.originAddress),
    ("destination_network", write c.destinationNetwork),
    ("destination_address", write c.destinationAddress), ("amount", write c.amount),
    ("metadata", write c.metadata)]
  ofMembers? ms := do
    return ⟨← required ms "smt_proof_local_exit_root", ← required ms "smt_proof_rollup_exit_root",
      ← required ms "global_index", ← required ms "mainnet_exit_root",
      ← required ms "rollup_exit_root", ← required ms "origin_network",
      ← required ms "origin_address", ← required ms "destination_network",
      ← required ms "destination_address", ← required ms "amount", ← required ms "metadata"⟩

instance : WireRecord ClaimReceipt where
  slots := [("global_index", false), ("credited_token", false), ("new_wrapped_token", false)]
  members r := [("global_index", write r.globalIndex), ("credited_token", write r.creditedToken),
    ("new_wrapped_token", write r.newWrappedToken)]
  ofMembers? ms := do
    return ⟨← required ms "global_index", ← required ms "credited_token",
      ← optional ms "new_wrapped_token"⟩

end ExitBridge
