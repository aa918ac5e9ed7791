/-
  The ledger's and the node's types read back.

  Each record reads back because each of its members does, and each sum because its tag tells the
  case. Cursors and counts have 64 bits on the wire.

  * `Effect.reads`, `Event.reads`: the members of a sum, whatever stands beside them.
  * `JournalEntry.Fits`, `EventBatch.Fits`, `RootResponse.Fits`, `TreeSnapshot.Fits`: cursors and
    counts are below `2 ^ 64`.
  * `EventBatch.plainTo`, `RootResponse.plainTo`, `TreeSnapshot.plainTo`: their forms are shallow,
    as those of requests and effects are.
  * `wire_forms_read_back`: over all pages of events, responses, requests, effects and snapshots.
-/
import ExitBridge.Proofs.Wire.Lossless
import ExitBridge.Wire.Node

namespace ExitBridge

open Wire Members

variable {depth : Nat}

/-! ## Kinds, paths, frontiers -/

instance : Lossless LeafKind where
  readsBack k := readsBack_of_isScalar trivial (by cases k <;> rfl)

/-- In an event, too, a kind is its name. -/
theorem LeafKind.readInEvent?_of_restated {k : LeafKind} {j : Json} (h : (write k).Restated j) :
    readInEvent? j = some k := by
  rw [h.eq_of_isScalar trivial]
  cases k <;> rfl

instance : Lossless InclusionPath where
  readsBack p := by
    intro j restated
    have read : read? j = some p.siblings := Lossless.readsBack p.siblings j restated
    show (read? j).bind InclusionPath.ofList? = some p
    rw [read, Option.bind_some, InclusionPath.ofList?, dif_pos p.length_siblings]

instance : Lossless (Vector Digest treeDepth) where
  readsBack v := by
    intro j restated
    have read : read? j = some v.toList := Lossless.readsBack v.toList j restated
    show (do
      let items : List Digest ← read? j
      if h : items.length = treeDepth then some ⟨items.toArray, by simpa using h⟩
      else none) = some v
    rw [read]
    simp [Vector.toList]

instance : PlainForm LeafKind depth := ⟨fun _ => .scalar trivial⟩

instance : PlainForm InclusionPath (depth + 1) := ⟨fun p => plainTo_write p.siblings⟩

instance : PlainForm (Vector Digest treeDepth) (depth + 1) := ⟨fun v => plainTo_write v.toList⟩

/-! ## Effects -/

instance : LosslessRecord Permit where
  nodup p := by simp [WireRecord.names, WireRecord.members]
  reads p ms holds := by
    simp only [WireRecord.members, holdsAll_cons] at holds
    obtain ⟨owner, spender, value, deadline, signature, -⟩ := holds
    simp only [WireRecord.ofMembers?, owner.required, spender.required, value.required,
      deadline.required, signature.required]
    rfl

instance : Lossless (Option Permit) := lossless_option nofun

instance : PlainForm Permit (depth + 1) := ⟨fun _ => .object (by simp [WireRecord.members])⟩

theorem Effect.reads (effect : Effect) (ms : Members) (holds : ms.HoldsAll effect.members) :
    readTagged "kind" variants (.object ms) = some effect := by
  cases effect with
  | lockNative sender amount =>
    simp only [members, holdsAll_cons] at holds
    obtain ⟨kind, sender, amount, -⟩ := holds
    simp [readTagged, variants, kind.tag, sender.required, amount.required]
  | pullTokens token sender amount permit =>
    simp only [members, holdsAll_cons] at holds
    obtain ⟨kind, token, sender, amount, permit, -⟩ := holds
    simp [readTagged, variants, kind.tag, token.required, sender.required, amount.required,
      permit.optional]
  | burnWrapped token sender amount =>
    simp only [members, holdsAll_cons] at holds
    obtain ⟨kind, token, sender, amount, -⟩ := holds
    simp [readTagged, variants, kind.tag, token.required, sender.required, amount.required]
  | releaseNative receiver amount =>
    simp only [members, holdsAll_cons] at holds
    obtain ⟨kind, receiver, amount, -⟩ := holds
    simp [readTagged, variants, kind.tag, receiver.required, amount.required]
  | releaseTokens token receiver amount =>
    simp only [members, holdsAll_cons] at holds
    obtain ⟨kind, token, receiver, amount, -⟩ := holds
    simp [readTagged, variants, kind.tag, token.required, receiver.required, amount.required]
  | deployWrapped token metadata =>
    simp only [members, holdsAll_cons] at holds
    obtain ⟨kind, token, metadata, -⟩ := holds
    simp [readTagged, variants, kind.tag, token.required, metadata.required]
  | mintWrapped token receiver amount =>
    simp only [members, holdsAll_cons] at holds
    obtain ⟨kind, token, receiver, amount, -⟩ := holds
    simp [readTagged, variants, kind.tag, token.required, receiver.required, amount.required]
  | deliverMessage receiver originAddress originNetwork value payload =>
    simp only [members, holdsAll_cons] at holds
    obtain ⟨kind, receiver, originAddress, originNetwork, value, payload, -⟩ := holds
    simp [readTagged, variants, kind.tag, receiver.required, originAddress.required,
      originNetwork.required, value.required, payload.required]

instance : Lossless Effect where
  readsBack effect := by
    refine readsBack_of_members rfl ?_ effect.reads
    cases effect <;> simp [Effect.members]

instance : PlainForm Effect (depth + 2) where
  plainTo effect := .object (by cases effect <;> simp [Effect.members])

/-! ## Events -/

instance : LosslessRecord BridgeEvent where
  nodup e := by simp [WireRecord.names, WireRecord.members]
  reads e ms holds := by
    simp only [WireRecord.members, holdsAll_cons] at holds
    obtain ⟨kind, originNetwork, originAddress, destinationNetwork, destinationAddress, amount,
      metadata, depositCount, -⟩ := holds
    obtain ⟨j, found, restated⟩ := kind
    have told : LeafKind.readInEvent? j = some e.kind := LeafKind.readInEvent?_of_restated restated
    simp [WireRecord.ofMembers?, found, told, originNetwork.required, originAddress.required,
      destinationNetwork.required, destinationAddress.required, amount.required,
      metadata.required, depositCount.required]

instance : LosslessRecord ClaimEvent where
  nodup e := by simp [WireRecord.names, WireRecord.members]
  reads e ms holds := by
    simp only [WireRecord.members, holdsAll_cons] at holds
    obtain ⟨globalIndex, originNetwork, originAddress, destinationAddress, amount, -⟩ := holds
    simp only [WireRecord.ofMembers?, globalIndex.required, originNetwork.required,
      originAddress.required, destinationAddress.required, amount.required]
    rfl

instance : LosslessRecord NewWrappedToken where
  nodup e := by simp [WireRecord.names, WireRecord.members]
  reads e ms holds := by
    simp only [WireRecord.members, holdsAll_cons] at holds
    obtain ⟨originNetwork, originTokenAddress, wrappedTokenAddress, metadata, -⟩ := holds
    simp only [WireRecord.ofMembers?, originNetwork.required, originTokenAddress.required,
      wrappedTokenAddress.required, metadata.required]
    rfl

instance : LosslessRecord L1InfoTreeUpdate where
  nodup e := by simp [WireRecord.names, WireRecord.members]
  reads e ms holds := by
    simp only [WireRecord.members, holdsAll_cons] at holds
    obtain ⟨mainnetExitRoot, rollupExitRoot, globalExitRoot, l1InfoIndex, l1InfoRoot, timestamp,
      -⟩ := holds
    simp only [WireRecord.ofMembers?, mainnetExitRoot.required, rollupExitRoot.required,
      globalExitRoot.required, l1InfoIndex.required, l1InfoRoot.required, timestamp.required]
    rfl

theorem Event.reads (event : Event) (ms : Members) (holds : ms.HoldsAll event.members) :
    readTagged "type" variants (.object ms) = some event := by
  cases event with
  | bridge e =>
    obtain ⟨type, holds⟩ := holdsAll_cons.1 holds
    simp [readTagged, variants, variant, type.tag, LosslessRecord.reads e ms holds]
  | claim e =>
    obtain ⟨type, holds⟩ := holdsAll_cons.1 holds
    simp [readTagged, variants, variant, type.tag, LosslessRecord.reads e ms holds]
  | newWrappedToken e =>
    obtain ⟨type, holds⟩ := holdsAll_cons.1 holds
    simp [readTagged, variants, variant, type.tag, LosslessRecord.reads e ms holds]
  | updateL1InfoTree e =>
    obtain ⟨type, holds⟩ := holdsAll_cons.1 holds
    simp [readTagged, variants, variant, type.tag, LosslessRecord.reads e ms holds]
  | emergencyStateActivated =>
    obtain ⟨type, -⟩ := holdsAll_cons.1 holds
    simp [readTagged, variants, variant, type.tag]
  | emergencyStateDeactivated =>
    obtain ⟨type, -⟩ := holdsAll_cons.1 holds
    simp [readTagged, variants, variant, type.tag]

instance : Lossless Event where
  readsBack event := by
    refine readsBack_of_members rfl ?_ event.reads
    cases event <;> simp [Event.members, WireRecord.members]

instance : PlainForm Event (depth + 1) where
  plainTo event := .object (by cases event <;> simp [Event.members, WireRecord.members])

/-! ## Pages of events -/

/-- The cursor has 64 bits. -/
def JournalEntry.Fits (e : JournalEntry) : Prop := e.cursor < 2 ^ 64

theorem JournalEntry.readsBack {e : JournalEntry} (fits : e.Fits) : ReadsBack e := by
  refine WireRecord.readsBack (by simp [WireRecord.names, WireRecord.members]) fun ms holds => ?_
  simp only [WireRecord.members, holdsAll_cons] at holds
  obtain ⟨cursor, event, -⟩ := holds
  simp only [WireRecord.ofMembers?, cursor.required_of_readsBack (readsBack_nat fits),
    event.required]
  rfl

theorem JournalEntry.plainTo {e : JournalEntry} (fits : e.Fits) :
    (write e).PlainTo (depth + 2) :=
  .object (by simp [WireRecord.members, plainTo_nat fits])

/-- All cursors have 64 bits. -/
structure EventBatch.Fits (b : EventBatch) : Prop where
  entries : ∀ e ∈ b.entries, e.Fits
  nextCursor : b.nextCursor < 2 ^ 64

theorem EventBatch.readsBack {b : EventBatch} (fits : b.Fits) : ReadsBack b := by
  refine WireRecord.readsBack (by simp [WireRecord.names, WireRecord.members]) fun ms holds => ?_
  simp only [WireRecord.members, holdsAll_cons] at holds
  obtain ⟨entries, nextCursor, -⟩ := holds
  have each : ReadsBack b.entries :=
    readsBack_list fun e mem => JournalEntry.readsBack (fits.entries e mem)
  simp only [WireRecord.ofMembers?, entries.required_of_readsBack each,
    nextCursor.required_of_readsBack (readsBack_nat fits.nextCursor)]
  rfl

theorem EventBatch.plainTo {b : EventBatch} (fits : b.Fits) : (write b).PlainTo (depth + 4) := by
  have entries : (write b.entries).PlainTo (depth + 3) := by
    refine .array fun j mem => ?_
    obtain ⟨e, held, rfl⟩ := List.mem_map.1 mem
    exact JournalEntry.plainTo (fits.entries e held)
  exact .object (by simp [WireRecord.members, entries, plainTo_nat fits.nextCursor])

/-! ## Requests -/

instance : LosslessRecord AssetDeposit where
  nodup d := by simp [WireRecord.names, WireRecord.members]
  reads d ms holds := by
    simp only [WireRecord.members, holdsAll_cons] at holds
    obtain ⟨destinationNetwork, destinationAddress, amount, token, value, forceUpdate, permit,
      -⟩ := holds
    simp only [WireRecord.ofMembers?, destinationNetwork.required, destinationAddress.required,
      amount.required, token.required, value.withDefault, forceUpdate.withDefault, permit.optional]
    rfl

instance : LosslessRecord MessageDeposit where
  nodup d := by simp [WireRecord.names, WireRecord.members]
  reads d ms holds := by
    simp only [WireRecord.members, holdsAll_cons] at holds
    obtain ⟨destinationNetwork, destinationAddress, value, forceUpdate, metadata, -⟩ := holds
    simp only [WireRecord.ofMembers?, destinationNetwork.required, destinationAddress.required,
      value.withDefault, forceUpdate.withDefault, metadata.withDefault]
    rfl

instance : Lossless BridgeAssetRequest where
  readsBack r := by
    refine readsBack_of_members rfl (by simp [WireRecord.members]) fun ms holds => ?_
    obtain ⟨sender, holds⟩ := holdsAll_cons.1 holds
    show (do return ⟨← required ms "sender", ← WireRecord.ofMembers? ms⟩) = some r
    rw [sender.required, LosslessRecord.reads r.deposit ms holds]
    rfl

instance : Lossless BridgeMessageRequest where
  readsBack r := by
    refine readsBack_of_members rfl (by simp [WireRecord.members]) fun ms holds => ?_
    obtain ⟨sender, holds⟩ := holdsAll_cons.1 holds
    show (do return ⟨← required ms "sender", ← WireRecord.ofMembers? ms⟩) = some r
    rw [sender.required, LosslessRecord.reads r.deposit ms holds]
    rfl

instance : LosslessRecord ClaimRequest where
  nodup r := by simp [WireRecord.names, WireRecord.members]
  reads r ms holds := by
    simp only [WireRecord.members, holdsAll_cons] at holds
    obtain ⟨localPath, rollupPath, globalIndex, mainnetExitRoot, rollupExitRoot, originNetwork,
      originAddress, destinationNetwork, destinationAddress, amount, metadata, -⟩ := holds
    simp only [WireRecord.ofMembers?, localPath.required, rollupPath.required,
      globalIndex.required, mainnetExitRoot.required, rollupExitRoot.required,
      originNetwork.required, originAddress.required, destinationNetwork.required,
      destinationAddress.required, amount.required, metadata.withDefault]
    rfl

instance : PlainForm BridgeAssetRequest (depth + 2) where
  plainTo _ := .object (by simp [WireRecord.members])

instance : PlainForm BridgeMessageRequest (depth + 1) where
  plainTo _ := .object (by simp [WireRecord.members])

instance : PlainForm ClaimRequest (depth + 2) where
  plainTo _ := .object (by simp [WireRecord.members])

/-! ## Counts -/

/-- Both counts have 64 bits. -/
structure RootResponse.Fits (r : RootResponse) : Prop where
  depositCount : r.depositCount < 2 ^ 64
  lastUpdatedDepositCount : r.lastUpdatedDepositCount < 2 ^ 64

theorem RootResponse.readsBack {r : RootResponse} (fits : r.Fits) : ReadsBack r := by
  refine WireRecord.readsBack (by simp [WireRecord.names, WireRecord.members]) fun ms holds => ?_
  simp only [WireRecord.members, holdsAll_cons] at holds
  obtain ⟨networkId, localExitRoot, depositCount, lastUpdatedDepositCount, mainnetExitRoot,
    rollupExitRoot, lastGlobalExitRoot, l1InfoRoot, lastLocalExitRoot, -⟩ := holds
  simp only [WireRecord.ofMembers?, networkId.required, localExitRoot.required,
    depositCount.required_of_readsBack (readsBack_nat fits.depositCount),
    lastUpdatedDepositCount.required_of_readsBack (readsBack_nat fits.lastUpdatedDepositCount),
    mainnetExitRoot.optional, rollupExitRoot.optional, lastGlobalExitRoot.optional,
    l1InfoRoot.optional, lastLocalExitRoot.optional]
  rfl

theorem RootResponse.plainTo {r : RootResponse} (fits : r.Fits) :
    (write r).PlainTo (depth + 1) :=
  .object (by
    simp [WireRecord.members, plainTo_nat fits.depositCount,
      plainTo_nat fits.lastUpdatedDepositCount])

/-- The count has 64 bits. -/
def TreeSnapshot.Fits (s : TreeSnapshot) : Prop := s.depositCount < 2 ^ 64

theorem TreeSnapshot.readsBack {s : TreeSnapshot} (fits : s.Fits) : ReadsBack s := by
  refine WireRecord.readsBack (by simp [WireRecord.names, WireRecord.members]) fun ms holds => ?_
  simp only [WireRecord.members, holdsAll_cons] at holds
  obtain ⟨frontier, depositCount, fullRoot, -⟩ := holds
  simp only [WireRecord.ofMembers?, frontier.required,
    depositCount.required_of_readsBack (readsBack_nat fits), fullRoot.optional]
  rfl

theorem TreeSnapshot.plainTo {s : TreeSnapshot} (fits : s.Fits) : (write s).PlainTo (depth + 2) :=
  .object (by simp [WireRecord.members, plainTo_nat fits])

/-! ## All of them -/

/-- **Wire forms read back.** The text of a page of events, a root response, a request, an effect
    or a snapshot of a tree is read as that value. So is whatever says the same as its form: the
    order of members does not matter at any depth, nor do members of other names. -/
theorem wire_forms_read_back :
    (∀ b : EventBatch, b.Fits → RoundTrips b) ∧ (∀ r : RootResponse, r.Fits → RoundTrips r) ∧
    (∀ r : ClaimRequest, RoundTrips r) ∧ (∀ r : BridgeAssetRequest, RoundTrips r) ∧
    (∀ r : BridgeMessageRequest, RoundTrips r) ∧ (∀ e : Effect, RoundTrips e) ∧
    ∀ s : TreeSnapshot, s.Fits → RoundTrips s := by
  have plain {α : Type} [Wire α] [Lossless α] [PlainForm α 127] (a : α) : RoundTrips a :=
    (Lossless.readsBack a).roundTrips (PlainForm.plainTo a : (write a).PlainTo 127)
  refine ⟨fun b fits => ?_, fun r fits => ?_, plain, plain, plain, plain, fun s fits => ?_⟩
  · exact (EventBatch.readsBack fits).roundTrips (EventBatch.plainTo fits)
  · exact (RootResponse.readsBack fits).roundTrips (RootResponse.plainTo fits)
  · exact (TreeSnapshot.readsBack fits).roundTrips (TreeSnapshot.plainTo fits)

/-- A page with one event, whose members are swapped and a comment added. -/
theorem wire_forms_read_back_swapped : ∃ (b : EventBatch) (j : Json), b.Fits ∧
    (write b).Restated j ∧ j ≠ write b ∧ read? j = some b ∧
    (Json.parse? (write b).render).bind read? = some b := by
  let b : EventBatch := ⟨[⟨3, .emergencyStateActivated⟩], 4⟩
  let event : Json := .object [("type", .string "emergency_state_activated")]
  let entries : Json := .array [.object [("cursor", .ofNat 3), ("event", event)]]
  let j : Json :=
    .object [("next_cursor", .ofNat 4), ("entries", entries), ("comment", .string "one")]
  have fits : b.Fits := ⟨by simp [b, JournalEntry.Fits], by decide⟩
  have restated : (write b).Restated j := by
    have others : ∀ m ∈ [("comment", Json.string "one")], m.1 ∉ ["entries", "next_cursor"] := by
      simp
    exact .object (Json.MembersRestated.refl [("entries", entries), ("next_cursor", .ofNat 4)])
      others (.swap _ _ _)
  have other : j ≠ write b := by simp [j, b, write, WireRecord.members]
  obtain ⟨text, readsBack⟩ := wire_forms_read_back.1 b fits
  exact ⟨b, j, fits, restated, other, readsBack j restated, text⟩

end ExitBridge
