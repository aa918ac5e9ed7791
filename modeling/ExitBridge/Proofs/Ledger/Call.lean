/-
  The calls that change a ledger, and what each of them does.

  * `Call`, `Answer`, `Call.run`: all operations of a ledger in one type.
  * `Call.deposit?`: the deposit that a call makes when it succeeds.
  * `Advance`: what a call that succeeds does to the part of the ledger that invariants read.
  * `Call.run_ok`: every call that succeeds does that.
  * `Call.eq_or_redeploys_of_error`, `Call.run_error`: a call that fails changes nothing, and never
    the ledger.
-/
import ExitBridge.Proofs.Ledger.Change

namespace ExitBridge

open LedgerM

/-! ## Calls -/

/-- What a ledger can be asked to do. -/
inductive Call where
  | bridgeAsset (sender : Address) (d : AssetDeposit) (block : BlockContext)
  | bridgeMessage (sender : Address) (d : MessageDeposit) (block : BlockContext)
  | bridgeMessageWeth (sender : Address) (d : MessageDeposit) (amount : Amount)
      (block : BlockContext)
  | claim (kind : LeafKind) (c : Claim)
  | updateGlobalExitRoot (block : BlockContext)
  | updateRollupExitRoot (index : UInt32) (localExitRoot : Digest) (block : BlockContext)
  | importGlobalExitRoot (roots : GlobalExitRoot) (timestamp : UInt64)
  | ingestPeerEvents (batch : EventBatch)
  | activateEmergencyState
  | deactivateEmergencyState
  deriving DecidableEq, Inhabited

/-- What a ledger answers when it has done so. -/
inductive Answer where
  | deposit (receipt : DepositReceipt)
  | claim (receipt : ClaimReceipt)
  /-- The global exit root, if one was published. -/
  | published (globalExitRoot : Option Digest)
  /-- How many global exit roots were new. -/
  | learned (count : Nat)
  | done
  deriving DecidableEq, Inhabited

/-- The global exit root that the answer tells of. -/
def Answer.globalExitRoot? : Answer → Option Digest
  | deposit receipt => receipt.globalExitRoot
  | published globalExitRoot => globalExitRoot
  | _ => none

/-- The leaf that a bridge event tells of. -/
def BridgeEvent.leaf (H : NodeHasher) (e : BridgeEvent) : Leaf :=
  { kind := e.kind
    originNetwork := e.originNetwork
    originAddress := e.originAddress
    destinationNetwork := e.destinationNetwork
    destinationAddress := e.destinationAddress
    amount := e.amount
    metadataHash := metadataHash H e.metadata }

namespace Call

variable {σ : Type} [ExecutionHost σ]

/-- Carries out a call. -/
def run (D : Deployment) : Call → LedgerM σ Answer
  | bridgeAsset sender d block => .deposit <$> ExitBridge.bridgeAsset D sender d block
  | bridgeMessage sender d block => .deposit <$> ExitBridge.bridgeMessage D sender d block
  | bridgeMessageWeth sender d amount block =>
    .deposit <$> ExitBridge.bridgeMessageWeth D sender d amount block
  | claim .asset c => .claim <$> claimAsset D c
  | claim .message c => .claim <$> claimMessage D c
  | updateGlobalExitRoot block => .published <$> ExitBridge.updateGlobalExitRoot D block
  | updateRollupExitRoot index root block =>
    (fun d => .published (some d)) <$> ExitBridge.updateRollupExitRoot D index root block
  | importGlobalExitRoot roots timestamp =>
    (fun isNew => .learned (if isNew then 1 else 0)) <$>
      ExitBridge.importGlobalExitRoot D roots timestamp
  | ingestPeerEvents batch => .learned <$> ExitBridge.ingestPeerEvents D batch
  | activateEmergencyState => (fun _ => .done) <$> ExitBridge.activateEmergencyState
  | deactivateEmergencyState => (fun _ => .done) <$> ExitBridge.deactivateEmergencyState

/-- The message that a message deposit commits. -/
def message (D : Deployment) (sender : Address) (amount : Amount) (d : MessageDeposit)
    (receipt : DepositReceipt) : BridgeEvent :=
  { kind := .message
    originNetwork := D.config.networkId
    originAddress := sender
    destinationNetwork := d.destinationNetwork
    destinationAddress := d.destinationAddress
    amount := amount
    metadata := d.metadata
    depositCount := receipt.depositCount }

/-- The deposit that a call makes when it succeeds with a receipt. -/
def deposit? (D : Deployment) (s : BridgeState σ) (receipt : DepositReceipt) :
    Call → Option BridgeEvent
  | bridgeAsset sender d _ =>
    match resolveAsset D s.ledger.wrapped (ExecutionHost.tokenMetadata s.host d.token) sender d with
    | .error _ => none
    | .ok asset => some
        { kind := .asset
          originNetwork := asset.originNetwork
          originAddress := asset.originAddress
          destinationNetwork := d.destinationNetwork
          destinationAddress := d.destinationAddress
          amount := receipt.amount
          metadata := asset.metadata
          depositCount := receipt.depositCount }
  | bridgeMessage sender d _ => some (message D sender d.value d receipt)
  | bridgeMessageWeth sender d amount _ => some (message D sender amount d receipt)
  | _ => none

theorem depositCount_of_deposit? {D : Deployment} {s : BridgeState σ} {receipt : DepositReceipt}
    {call : Call} {e : BridgeEvent} (h : call.deposit? D s receipt = some e) :
    e.depositCount = receipt.depositCount := by
  unfold deposit? at h
  split at h
  · split at h
    · cases h
    · cases h
      rfl
  · cases h
    rfl
  · cases h
    rfl
  · cases h

/-- The claim that a call makes. -/
def claim? : Call → Option (LeafKind × Claim)
  | claim kind c => some (kind, c)
  | _ => none

/-- Does the call publish the ledger's own exit root when it succeeds? -/
def publishes : Call → Bool
  | bridgeAsset _ d _ => d.forceUpdate
  | bridgeMessage _ d _ => d.forceUpdate
  | bridgeMessageWeth _ d _ _ => d.forceUpdate
  | updateGlobalExitRoot _ => true
  | _ => false

/-- The block in which a call publishes exit roots. -/
def block? : Call → Option BlockContext
  | bridgeAsset _ _ block => some block
  | bridgeMessage _ _ block => some block
  | bridgeMessageWeth _ _ _ block => some block
  | updateGlobalExitRoot block => some block
  | updateRollupExitRoot _ _ block => some block
  | _ => none

/-- What takes the value of a deposit from its sender, if there is any. -/
def effect? (D : Deployment) (s : BridgeState σ) : Call → Option Effect
  | bridgeAsset sender d _ =>
    match resolveAsset D s.ledger.wrapped (ExecutionHost.tokenMetadata s.host d.token) sender d with
    | .error _ => none
    | .ok asset => some asset.effect
  | bridgeMessage sender d _ => if d.value ≠ 0 then some (.lockNative sender d.value) else none
  | bridgeMessageWeth sender _ amount _ => D.weth.map fun weth => .burnWrapped weth sender amount
  | _ => none

/-- The call hands a replica a global exit root with these halves. -/
def Teaches : Call → GlobalExitRoot → Prop
  | importGlobalExitRoot roots _, p => p = roots
  | ingestPeerEvents batch, p => ∃ e, Event.updateL1InfoTree e ∈ batch.entries.map (·.event) ∧
      p = ⟨e.mainnetExitRoot, e.rollupExitRoot⟩
  | _, _ => False

end Call

/-! ## What calls do -/

/-- What a call that succeeds does to the part of the ledger that invariants read. -/
inductive Advance {σ : Type} [ExecutionHost σ] (D : Deployment) (s : BridgeState σ) :
    Call → Answer → Ledger → Prop
  | deposit {call : Call} {receipt : DepositReceipt} {l' : Ledger} {e : BridgeEvent}
      (event : call.deposit? D s receipt = some e)
      (deposited : Deposited D (e.leaf D.hasher) call.publishes s.ledger receipt l') :
      Advance D s call (.deposit receipt) l'
  | claim {kind : LeafKind} {c : Claim} {receipt : ClaimReceipt} {l' : Ledger} {key : ScopeKey}
      (verified : verifyClaim D s.ledger.roots kind c = .ok key)
      (marked : Marked key s.ledger l') :
      Advance D s (.claim kind c) (.claim receipt) l'
  | publish {block : BlockContext} {told : Option Digest} {l' : Ledger}
      (core : l'.core = { s.ledger.core with roots :=
        { s.ledger.core.roots with ownRoot := s.ledger.tree.root D.hasher } })
      (learns : s.ledger.Learns D.hasher (· ∈ l'.core.roots.halves?) l')
      (hash : told = l'.core.roots.halves?.map (·.hash D.hasher)) :
      Advance D s (.updateGlobalExitRoot block) (.published told) l'
  | fold {index : UInt32} {root : Digest} {block : BlockContext} {told : Digest} {l' : Ledger}
      {rollups : RollupRoots} (authority : s.ledger.roots.isAuthority = true)
      (set : s.ledger.roots.view.rollups.set index root = .ok rollups)
      (core : l'.core = { s.ledger.core with roots := { s.ledger.core.roots with
        rollups := rollups, rollupExitRoot := rollups.root D.hasher } })
      (learns : s.ledger.Learns D.hasher (· ∈ l'.core.roots.halves?) l') :
      Advance D s (.updateRollupExitRoot index root block) (.published (some told)) l'
  | learn {call : Call} {count : Nat} {l' : Ledger} (silent : call.publishes = false)
      (replica : ∀ p, call.Teaches p → s.ledger.roots.isAuthority = false)
      (core : l'.core = s.ledger.core) (learns : s.ledger.Learns D.hasher call.Teaches l') :
      Advance D s call (.learned count) l'
  | toggle {call : Call} {l' : Ledger} {emergency : Bool} (silent : call.publishes = false)
      (core : l'.core = { s.ledger.core with emergency := emergency })
      (learns : s.ledger.Learns D.hasher (fun _ => False) l') :
      Advance D s call .done l'

variable {σ : Type} [ExecutionHost σ] {D : Deployment} {s s' : BridgeState σ}
  {block : BlockContext}

/-! ## Deposits -/

/-- A host has carried out an effect, if there was one. -/
def Carried (host : σ) : Option Effect → σ → Prop
  | none, host' => host' = host
  | some effect, host' => ∃ receipt, ExecutionHost.apply host [effect] = .ok (receipt, host')

/-- A deposit passes the checks, and its value is taken; what is left is to commit it. -/
structure Call.Deposits (D : Deployment) (s : BridgeState σ) (call : Call)
    (receipt : DepositReceipt) (e : BridgeEvent) (host : σ) : Prop where
  operational : s.ledger.emergency = false
  event : call.deposit? D s receipt = some e
  leaves : e.destinationNetwork ≠ D.config.networkId
  carried : Carried s.host (call.effect? D s) host

theorem bridgeAsset_eq_ok {sender : Address} {d : AssetDeposit} {receipt : DepositReceipt}
    (h : bridgeAsset D sender d block s = .ok receipt s') :
    ∃ e host, (Call.bridgeAsset sender d block).Deposits D s receipt e host ∧
      commitDeposit D (e.leaf D.hasher) e.metadata d.forceUpdate block ⟨s.ledger, host⟩ =
        .ok receipt s' := by
  simp only [bridgeAsset, bind_eq_ok, requireOperational_eq_ok, requireOtherNetwork_eq_ok,
    requireCapacity_eq_ok, get_eq_ok, ofResult_eq_ok, perform_eq_ok] at h
  obtain ⟨_, _, ⟨operational, rfl⟩, _, _, ⟨leaves, rfl⟩, _, _, ⟨-, -, rfl⟩, _, _, ⟨rfl, rfl⟩,
    asset, _, ⟨hasset, rfl⟩, pulled, _, ⟨host, hhost, rfl⟩, committed⟩ := h
  refine ⟨_, host, ⟨operational, by rw [Call.deposit?, hasset], leaves, ?_⟩, ?_⟩
  · rw [Call.effect?, hasset]
    exact ⟨pulled, hhost⟩
  · simp only [BridgeEvent.leaf, (commitDeposit_eq_ok committed).amount]
    exact committed

theorem bridgeMessage_eq_ok {sender : Address} {d : MessageDeposit} {receipt : DepositReceipt}
    (h : bridgeMessage D sender d block s = .ok receipt s') :
    ∃ e host, (Call.bridgeMessage sender d block).Deposits D s receipt e host ∧
      commitDeposit D (e.leaf D.hasher) e.metadata d.forceUpdate block ⟨s.ledger, host⟩ =
        .ok receipt s' := by
  simp only [bridgeMessage, bind_eq_ok, requireOperational_eq_ok, requireOtherNetwork_eq_ok,
    require_eq_ok, requireCapacity_eq_ok] at h
  obtain ⟨_, _, ⟨operational, rfl⟩, _, _, ⟨leaves, rfl⟩, _, _, ⟨-, rfl⟩, _, _, ⟨-, -, rfl⟩, h⟩ := h
  by_cases value : d.value ≠ 0
  · simp only [if_pos value, bind_eq_ok, discard_eq_ok, perform_eq_ok] at h
    obtain ⟨_, _, ⟨pulled, host, hhost, rfl⟩, committed⟩ := h
    refine ⟨_, host, ⟨operational, rfl, leaves, ?_⟩, committed⟩
    rw [Call.effect?, if_pos value]
    exact ⟨pulled, hhost⟩
  · rw [if_neg value] at h
    refine ⟨_, s.host, ⟨operational, rfl, leaves, ?_⟩, h⟩
    rw [Call.effect?, if_neg value]
    rfl

theorem bridgeMessageWeth_eq_ok {sender : Address} {d : MessageDeposit} {amount : Amount}
    {receipt : DepositReceipt} (h : bridgeMessageWeth D sender d amount block s = .ok receipt s') :
    ∃ e host, (Call.bridgeMessageWeth sender d amount block).Deposits D s receipt e host ∧
      commitDeposit D (e.leaf D.hasher) e.metadata d.forceUpdate block ⟨s.ledger, host⟩ =
        .ok receipt s' := by
  simp only [bridgeMessageWeth, bind_eq_ok, requireOperational_eq_ok, ofResult_eq_ok,
    requireOtherNetwork_eq_ok, require_eq_ok, requireCapacity_eq_ok, discard_eq_ok,
    perform_eq_ok] at h
  obtain ⟨_, _, ⟨operational, rfl⟩, weth, _, ⟨hweth, rfl⟩, _, _, ⟨leaves, rfl⟩, _, _, ⟨-, rfl⟩,
    _, _, ⟨-, -, rfl⟩, _, _, ⟨pulled, host, hhost, rfl⟩, committed⟩ := h
  refine ⟨_, host, ⟨operational, rfl, leaves, ?_⟩, committed⟩
  cases configured : D.weth with
  | none =>
    rw [configured] at hweth
    cases hweth
  | some token =>
    rw [configured] at hweth
    cases hweth
    rw [Call.effect?, configured]
    exact ⟨pulled, hhost⟩

/-! ## Claims -/

/-- What a claim credits, by the kind of its leaf; messages create no token. -/
def Claim.selection (D : Deployment) (wrapped : WrappedTokens) (c : Claim) :
    LeafKind → AssetSelection
  | .asset => selectAsset D wrapped c
  | .message => ⟨(selectMessage D c).1, (selectMessage D c).2, none⟩

/-- What a claimant gets for a selection. -/
def Claim.receipt (c : Claim) (selection : AssetSelection) : ClaimReceipt :=
  ⟨c.globalIndex.pack, selection.creditedToken, selection.newWrappedToken⟩

/-- A claim passes the checks, and its effects are carried out; what is left is to finish it. -/
structure Claim.Honours (D : Deployment) (s : BridgeState σ) (kind : LeafKind) (c : Claim)
    (receipt : ClaimReceipt) (key : ScopeKey) (host : σ) : Prop where
  operational : s.ledger.emergency = false
  verified : verifyClaim D s.ledger.roots kind c = .ok key
  free : s.ledger.claimed.isClaimed key = false
  told : receipt = c.receipt (c.selection D s.ledger.wrapped kind)
  carried : ∃ answer,
    ExecutionHost.apply s.host (c.selection D s.ledger.wrapped kind).effects = .ok (answer, host)

omit [ExecutionHost σ] in
/-- A claim is finished: the token that it creates is registered, and the claim marked. -/
def Claim.Finishes (D : Deployment) (c : Claim) (receipt : ClaimReceipt) (key : ScopeKey)
    (s s' : BridgeState σ) : Prop :=
  ∃ s₁, (match receipt.newWrappedToken with
      | some token => registerWrapped D c token s = .ok () s₁
      | none => s₁ = s) ∧
    finishClaim key c s₁ = .ok () s'

theorem claimAsset_eq_ok {c : Claim} {receipt : ClaimReceipt}
    (h : claimAsset D c s = .ok receipt s') :
    ∃ key host, c.Honours D s .asset receipt key host ∧
      c.Finishes D receipt key ⟨s.ledger, host⟩ s' := by
  simp only [claimAsset, bind_eq_ok, admitClaim_eq_ok, ledger_eq_ok, discard_eq_ok,
    perform_eq_ok] at h
  obtain ⟨key, _, ⟨operational, verified, free, rfl⟩, _, _, ⟨rfl, rfl⟩, _, _,
    ⟨answer, host, hhost, rfl⟩, h⟩ := h
  refine ⟨key, host, ?_⟩
  cases htoken : (selectAsset D s.ledger.wrapped c).newWrappedToken with
  | none =>
    simp only [htoken, bind_eq_ok, pure_eq_ok] at h
    obtain ⟨_, _, hfinish, rfl, rfl⟩ := h
    exact ⟨⟨operational, verified, free, by rw [Claim.receipt, Claim.selection, htoken],
      ⟨answer, hhost⟩⟩, _, rfl, hfinish⟩
  | some token =>
    simp only [htoken, bind_eq_ok, pure_eq_ok] at h
    obtain ⟨_, s₁, hregister, _, _, hfinish, rfl, rfl⟩ := h
    exact ⟨⟨operational, verified, free, by rw [Claim.receipt, Claim.selection, htoken],
      ⟨answer, hhost⟩⟩, s₁, hregister, hfinish⟩

theorem claimMessage_eq_ok {c : Claim} {receipt : ClaimReceipt}
    (h : claimMessage D c s = .ok receipt s') :
    ∃ key host, c.Honours D s .message receipt key host ∧
      c.Finishes D receipt key ⟨s.ledger, host⟩ s' := by
  simp only [claimMessage, bind_eq_ok, admitClaim_eq_ok, discard_eq_ok, perform_eq_ok,
    pure_eq_ok] at h
  obtain ⟨key, _, ⟨operational, verified, free, rfl⟩, _, _, ⟨answer, host, hhost, rfl⟩, _, _,
    hfinish, rfl, rfl⟩ := h
  exact ⟨key, host, ⟨operational, verified, free, rfl, ⟨answer, hhost⟩⟩, _, rfl, hfinish⟩

omit [ExecutionHost σ] in
/-- A claim that is finished is marked, and nothing else that invariants read is changed. -/
theorem Claim.Finishes.marked {c : Claim} {receipt : ClaimReceipt} {key : ScopeKey}
    (h : c.Finishes D receipt key s s') : Marked key s.ledger s'.ledger := by
  obtain ⟨s₁, registered, hfinish⟩ := h
  have marked := finishClaim_eq_ok hfinish
  cases htoken : receipt.newWrappedToken with
  | none =>
    rw [htoken] at registered
    obtain rfl := registered
    exact marked
  | some token =>
    rw [htoken] at registered
    obtain ⟨core, learns⟩ := registerWrapped_eq_ok registered
    have claimed : s₁.ledger.claimed = s.ledger.claimed := congrArg LedgerCore.claimed core
    refine ⟨claimed ▸ marked.mark, ?_, learns.trans marked.learns⟩
    rw [marked.core, core]

/-- The claim of a message that is admitted is honoured, if the host delivers the message. -/
theorem exists_claimMessage {c : Claim} {key : ScopeKey} {delivery : ExecutionReceipt} {host : σ}
    (admitted : admitClaim D .message c s = .ok key s)
    (delivers : ExecutionHost.apply s.host (selectMessage D c).2 = .ok (delivery, host)) :
    ∃ receipt s', claimMessage D c s = .ok receipt s' := by
  obtain ⟨-, -, free, -⟩ := admitClaim_eq_ok.1 admitted
  obtain ⟨claimed, hmark⟩ := ReplayGuard.exists_mark free
  simp only [claimMessage, bind_eq_ok, discard_eq_ok, perform_eq_ok, finishClaim, ledger_eq_ok,
    ofResult_eq_ok, change_eq_ok, emit_eq_ok, pure_eq_ok]
  exact ⟨_, _, key, s, admitted, (), _, ⟨delivery, host, delivers, rfl⟩, (), _,
    ⟨_, _, ⟨rfl, rfl⟩, claimed, _, ⟨hmark, rfl⟩, (), _, rfl, rfl⟩, rfl, rfl⟩

/-! ## All calls -/

/-- **What a call that succeeds does.** -/
theorem Call.run_ok {call : Call} {answer : Answer} (h : call.run D s = .ok answer s') :
    Advance D s call answer s'.ledger := by
  cases call with
  | bridgeAsset sender d block =>
    obtain ⟨receipt, hrun, rfl⟩ := map_eq_ok.1 h
    obtain ⟨e, host, deposits, committed⟩ := bridgeAsset_eq_ok hrun
    have deposited := commitDeposit_eq_ok committed
    exact .deposit deposits.event deposited
  | bridgeMessage sender d block =>
    obtain ⟨receipt, hrun, rfl⟩ := map_eq_ok.1 h
    obtain ⟨e, host, deposits, committed⟩ := bridgeMessage_eq_ok hrun
    have deposited := commitDeposit_eq_ok committed
    exact .deposit deposits.event deposited
  | bridgeMessageWeth sender d amount block =>
    obtain ⟨receipt, hrun, rfl⟩ := map_eq_ok.1 h
    obtain ⟨e, host, deposits, committed⟩ := bridgeMessageWeth_eq_ok hrun
    have deposited := commitDeposit_eq_ok committed
    exact .deposit deposits.event deposited
  | claim kind c =>
    cases kind with
    | asset =>
      obtain ⟨receipt, hrun, rfl⟩ := map_eq_ok.1 h
      obtain ⟨key, host, honours, finishes⟩ := claimAsset_eq_ok hrun
      have marked := finishes.marked
      exact .claim honours.verified marked
    | message =>
      obtain ⟨receipt, hrun, rfl⟩ := map_eq_ok.1 h
      obtain ⟨key, host, honours, finishes⟩ := claimMessage_eq_ok hrun
      have marked := finishes.marked
      exact .claim honours.verified marked
  | updateGlobalExitRoot block =>
    obtain ⟨told, hrun, rfl⟩ := map_eq_ok.1 h
    obtain ⟨core, learns, hash⟩ := publishLocalRoot_eq_ok hrun
    exact .publish core learns hash
  | updateRollupExitRoot index root block =>
    obtain ⟨told, hrun, rfl⟩ := map_eq_ok.1 h
    obtain ⟨authority, rollups, set, core, learns, -⟩ := updateRollupExitRoot_eq_ok hrun
    exact .fold authority set core learns
  | importGlobalExitRoot roots timestamp =>
    obtain ⟨isNew, hrun, rfl⟩ := map_eq_ok.1 h
    obtain ⟨replica, core, learns⟩ := importGlobalExitRoot_eq_ok hrun
    exact .learn rfl (fun _ _ => replica) core learns
  | ingestPeerEvents batch =>
    obtain ⟨count, hrun, rfl⟩ := map_eq_ok.1 h
    obtain ⟨replica, core, learns⟩ := ingestEvents_eq_ok hrun
    exact .learn rfl (fun _ ⟨e, hmem, _⟩ => replica e hmem) core learns
  | activateEmergencyState =>
    obtain ⟨_, hrun, rfl⟩ := map_eq_ok.1 h
    obtain ⟨core, learns⟩ := activateEmergencyState_eq_ok hrun
    exact .toggle rfl core learns
  | deactivateEmergencyState =>
    obtain ⟨_, hrun, rfl⟩ := map_eq_ok.1 h
    obtain ⟨core, learns⟩ := deactivateEmergencyState_eq_ok hrun
    exact .toggle rfl core learns

/-! ## Failures -/

theorem bridgeAsset_eq_error {sender : Address} {d : AssetDeposit} {e : LedgerError}
    (h : bridgeAsset D sender d block s = .error e s') : s' = s := by
  simp only [bridgeAsset, bind_eq_error, requireOperational_eq_error, requireOperational_eq_ok,
    requireOtherNetwork_eq_ok, requireCapacity_eq_ok, get_eq_error, get_eq_ok, ofResult_eq_error,
    ofResult_eq_ok, perform_eq_ok, false_or] at h
  obtain ⟨-, -, rfl⟩ | ⟨_, _, ⟨-, rfl⟩, h | ⟨_, _, ⟨-, rfl⟩, h | ⟨_, _, ⟨room, canPublish, rfl⟩,
    _, _, ⟨rfl, rfl⟩, ⟨-, rfl⟩ | ⟨_, _, ⟨-, rfl⟩, h | ⟨_, _, ⟨_, -, rfl⟩, h⟩⟩⟩⟩⟩ := h
  · rfl
  · exact requireOtherNetwork_eq_error h
  · exact requireCapacity_eq_error h
  · rfl
  · exact eq_of_perform_error h
  · -- after the checks a deposit is committed
    exact (false_of_commitDeposit_error h room canPublish).elim

theorem bridgeMessage_eq_error {sender : Address} {d : MessageDeposit} {e : LedgerError}
    (h : bridgeMessage D sender d block s = .error e s') : s' = s := by
  simp only [bridgeMessage, bind_eq_error, requireOperational_eq_error, requireOperational_eq_ok,
    requireOtherNetwork_eq_ok, require_eq_error, require_eq_ok, requireCapacity_eq_ok] at h
  obtain ⟨-, -, rfl⟩ | ⟨_, _, ⟨-, rfl⟩, h | ⟨_, _, ⟨-, rfl⟩, ⟨-, -, rfl⟩ | ⟨_, _, ⟨-, rfl⟩,
    h | ⟨_, _, ⟨room, canPublish, rfl⟩, h⟩⟩⟩⟩ := h
  · rfl
  · exact requireOtherNetwork_eq_error h
  · rfl
  · exact requireCapacity_eq_error h
  · by_cases value : d.value ≠ 0
    · simp only [if_pos value, bind_eq_error, discard_eq_error, discard_eq_ok, perform_eq_ok] at h
      obtain h | ⟨_, _, ⟨_, _, -, rfl⟩, h⟩ := h
      · exact eq_of_perform_error h
      · exact (false_of_commitDeposit_error h room canPublish).elim
    · rw [if_neg value] at h
      exact (false_of_commitDeposit_error h room canPublish).elim

theorem bridgeMessageWeth_eq_error {sender : Address} {d : MessageDeposit} {amount : Amount}
    {e : LedgerError} (h : bridgeMessageWeth D sender d amount block s = .error e s') :
    s' = s := by
  simp only [bridgeMessageWeth, bind_eq_error, requireOperational_eq_error,
    requireOperational_eq_ok, ofResult_eq_error, ofResult_eq_ok, requireOtherNetwork_eq_ok,
    require_eq_error, require_eq_ok, requireCapacity_eq_ok, discard_eq_error, discard_eq_ok,
    perform_eq_ok] at h
  obtain ⟨-, -, rfl⟩ | ⟨_, _, ⟨-, rfl⟩, ⟨-, rfl⟩ | ⟨_, _, ⟨-, rfl⟩, h | ⟨_, _, ⟨-, rfl⟩,
    ⟨-, -, rfl⟩ | ⟨_, _, ⟨-, rfl⟩, h | ⟨_, _, ⟨room, canPublish, rfl⟩,
    h | ⟨_, _, ⟨_, _, -, rfl⟩, h⟩⟩⟩⟩⟩⟩ := h
  · rfl
  · rfl
  · exact requireOtherNetwork_eq_error h
  · rfl
  · exact requireCapacity_eq_error h
  · exact eq_of_perform_error h
  · exact (false_of_commitDeposit_error h room canPublish).elim

/-- The host would deploy a token at an address that is registered already. -/
def BridgeState.Redeploys (s : BridgeState σ) : Prop :=
  ∃ token metadata rest answer, s.ledger.wrapped.byAddress.contains token = true ∧
    ExecutionHost.apply s.host (.deployWrapped token metadata :: rest) = .ok answer

/-- A claim that fails changes nothing, unless the host has deployed a token that is registered
    already; then the ledger is as it was. -/
theorem claimAsset_eq_error {c : Claim} {e : LedgerError}
    (h : claimAsset D c s = .error e s') : s' = s ∨ s.Redeploys ∧ s'.ledger = s.ledger := by
  simp only [claimAsset, bind_eq_error, admitClaim_eq_ok, ledger_eq_error, ledger_eq_ok,
    discard_eq_error, discard_eq_ok, perform_eq_ok, false_or] at h
  obtain h | ⟨key, _, ⟨-, -, free, rfl⟩, _, _, ⟨rfl, rfl⟩, h | ⟨_, _, ⟨_, _, hhost, rfl⟩, h⟩⟩ := h
  · exact .inl (admitClaim_eq_error h)
  · exact .inl (eq_of_perform_error h)
  · cases htoken : (selectAsset D s.ledger.wrapped c).newWrappedToken with
    | none =>
      simp only [htoken, bind_eq_error, pure_eq_error, and_false, exists_false, or_false] at h
      exact (false_of_finishClaim_error h free).elim
    | some token =>
      simp only [htoken, bind_eq_error, pure_eq_error, and_false, exists_false, or_false] at h
      obtain h | ⟨_, _, hregister, h⟩ := h
      · obtain ⟨taken, same⟩ := registerWrapped_eq_error h
        obtain ⟨unresolved, effects⟩ := selectAsset_of_newWrappedToken htoken
        rw [effects] at hhost
        refine .inr ⟨⟨token, c.metadata, _, _, ?_, hhost⟩, by rw [same]⟩
        exact taken.resolve_left (by simp [unresolved])
      · obtain ⟨core, -⟩ := registerWrapped_eq_ok hregister
        have claimed := congrArg LedgerCore.claimed core
        simp only [Ledger.core] at claimed
        exact (false_of_finishClaim_error h (claimed ▸ free)).elim

theorem claimMessage_eq_error {c : Claim} {e : LedgerError}
    (h : claimMessage D c s = .error e s') : s' = s := by
  simp only [claimMessage, bind_eq_error, admitClaim_eq_ok, discard_eq_error, discard_eq_ok,
    perform_eq_ok, pure_eq_error, and_false, exists_false, or_false] at h
  obtain h | ⟨key, _, ⟨-, -, free, rfl⟩, h | ⟨_, _, ⟨_, _, -, rfl⟩, h⟩⟩ := h
  · exact admitClaim_eq_error h
  · exact eq_of_perform_error h
  · exact (false_of_finishClaim_error h free).elim

/-- **A call that fails** changes nothing, unless the host has deployed a token that is registered
    already; then the ledger is as it was. -/
theorem Call.eq_or_redeploys_of_error {call : Call} {e : LedgerError}
    (h : call.run D s = .error e s') : s' = s ∨ s.Redeploys ∧ s'.ledger = s.ledger := by
  cases call with
  | bridgeAsset sender d block => exact .inl (bridgeAsset_eq_error (map_eq_error.1 h))
  | bridgeMessage sender d block => exact .inl (bridgeMessage_eq_error (map_eq_error.1 h))
  | bridgeMessageWeth sender d amount block =>
    exact .inl (bridgeMessageWeth_eq_error (map_eq_error.1 h))
  | claim kind c =>
    cases kind with
    | asset => exact claimAsset_eq_error (map_eq_error.1 h)
    | message => exact .inl (claimMessage_eq_error (map_eq_error.1 h))
  | updateGlobalExitRoot block => exact .inl (publishLocalRoot_eq_error (map_eq_error.1 h)).2
  | updateRollupExitRoot index root block =>
    exact .inl (updateRollupExitRoot_eq_error (map_eq_error.1 h)).2
  | importGlobalExitRoot roots timestamp =>
    exact .inl (importGlobalExitRoot_eq_error (map_eq_error.1 h)).2
  | ingestPeerEvents batch => exact .inl (ingestEvents_eq_error (map_eq_error.1 h)).2
  | activateEmergencyState => exact .inl (activateEmergencyState_eq_error (map_eq_error.1 h))
  | deactivateEmergencyState => exact .inl (deactivateEmergencyState_eq_error (map_eq_error.1 h))

theorem Call.run_error {call : Call} {e : LedgerError} (h : call.run D s = .error e s') :
    s'.ledger = s.ledger := by
  rcases call.eq_or_redeploys_of_error h with rfl | ⟨-, same⟩
  · rfl
  · exact same

end ExitBridge
