/-
  Calls over states that are alike.

  An operation adds to the journal of its ledger but never reads it, and of its host it sees only
  what the host answers. So the same call over two states that agree in all else ends in the same
  way, and leaves two states that agree again.

  * `Mirror`: what the hosts and the journals of two states have in common, whatever operations do
    to them; `Mirror.Alike`: states that agree in all else.
  * `Mirror.Reflects`: operations that end in the same way, one rule for each way to make one.
  * `Mirror.reflects_run`: all calls.
-/
import ExitBridge.Proofs.Ledger.Call

namespace ExitBridge

open LedgerM

/-! ## States -/

/-- Two hosts answer in the same way. -/
inductive SameAnswer {σ τ : Type} (hosts : σ → τ → Prop) :
    Except ExecutionError (ExecutionReceipt × σ) → Except ExecutionError (ExecutionReceipt × τ) →
      Prop
  | ok {receipt : ExecutionReceipt} {h : σ} {h' : τ} :
      hosts h h' → SameAnswer hosts (.ok (receipt, h)) (.ok (receipt, h'))
  | error {e : ExecutionError} : SameAnswer hosts (.error e) (.error e)

/-- What the hosts and the journals of two states have in common. -/
structure Mirror (σ τ : Type) [ExecutionHost σ] [ExecutionHost τ] where
  hosts : σ → τ → Prop
  journals : Journal → Journal → Prop
  push : ∀ {j j'} (e : Event), journals j j' → journals (j.push e) (j'.push e)
  tokenMetadata : ∀ {h h'} (token : Address), hosts h h' →
    ExecutionHost.tokenMetadata h token = ExecutionHost.tokenMetadata h' token
  apply : ∀ {h h'} (effects : List Effect), hosts h h' →
    SameAnswer hosts (ExecutionHost.apply h effects) (ExecutionHost.apply h' effects)

namespace Mirror

variable {σ τ : Type} [ExecutionHost σ] [ExecutionHost τ] (M : Mirror σ τ)

/-- States that agree in all but hosts and journals. -/
structure Alike (s : BridgeState σ) (t : BridgeState τ) : Prop where
  ledger : t.ledger = { s.ledger with journal := t.ledger.journal }
  journal : M.journals s.ledger.journal t.ledger.journal
  host : M.hosts s.host t.host

/-- Two results that are the same, and leave states that are alike. -/
inductive Ends {α : Type} : EStateM.Result LedgerError (BridgeState σ) α →
    EStateM.Result LedgerError (BridgeState τ) α → Prop
  | ok {a : α} {s : BridgeState σ} {t : BridgeState τ} : M.Alike s t → Ends (.ok a s) (.ok a t)
  | error {e : LedgerError} {s : BridgeState σ} {t : BridgeState τ} :
      M.Alike s t → Ends (.error e s) (.error e t)

/-- Operations that end in the same way over states that are alike. -/
def Reflects {α : Type} (x : LedgerM σ α) (y : LedgerM τ α) : Prop :=
  ∀ s t, M.Alike s t → M.Ends (x s) (y t)

variable {M}

/-! ## Steps of operations -/

namespace Reflects

variable {α β : Type} {x : LedgerM σ α} {y : LedgerM τ α}

theorem pure (a : α) : M.Reflects (pure a : LedgerM σ α) (pure a) :=
  fun _ _ alike => .ok alike

theorem throw (e : LedgerError) : M.Reflects (throw e : LedgerM σ α) (throw e) :=
  fun _ _ alike => .error alike

theorem bind {f : α → LedgerM σ β} {g : α → LedgerM τ β} (h : M.Reflects x y)
    (h' : ∀ a, M.Reflects (f a) (g a)) : M.Reflects (x >>= f) (y >>= g) := by
  intro s t alike
  show M.Ends (EStateM.bind x f s) (EStateM.bind y g t)
  rw [EStateM.bind, EStateM.bind]
  have ends := h s t alike
  generalize x s = r at ends ⊢
  generalize y t = r' at ends ⊢
  cases ends with
  | ok alike' => exact h' _ _ _ alike'
  | error alike' => exact .error alike'

theorem map {f : α → β} (h : M.Reflects x y) : M.Reflects (f <$> x) (f <$> y) := by
  intro s t alike
  show M.Ends (EStateM.map f x s) (EStateM.map f y t)
  rw [EStateM.map, EStateM.map]
  have ends := h s t alike
  generalize x s = r at ends ⊢
  generalize y t = r' at ends ⊢
  cases ends with
  | ok alike' => exact .ok alike'
  | error alike' => exact .error alike'

theorem discard (h : M.Reflects x y) : M.Reflects (discard x) (discard y) := h.map

theorem ofResult (r : Except LedgerError α) :
    M.Reflects (ofResult r : LedgerM σ α) (ofResult r) := by
  intro s t alike
  cases r with
  | ok a => exact .ok alike
  | error e => exact .error alike

theorem require (condition : Bool) (e : LedgerError) :
    M.Reflects (require condition e : LedgerM σ Unit) (require condition e) := by
  intro s t alike
  cases condition with
  | true => exact .ok alike
  | false => exact .error alike

/-- What an operation does with a ledger may not depend on the journal. -/
theorem ledger_bind {f : Ledger → LedgerM σ β} {g : Ledger → LedgerM τ β}
    (h : ∀ l j, M.Reflects (f l) (g { l with journal := j })) :
    M.Reflects (ledger >>= f) (ledger >>= g) := by
  intro s t alike
  have reflects := h s.ledger t.ledger.journal
  rw [← alike.ledger] at reflects
  exact reflects s t alike

theorem get_bind {f : BridgeState σ → LedgerM σ β} {g : BridgeState τ → LedgerM τ β}
    (h : ∀ s t, M.Alike s t → M.Reflects (f s) (g t)) : M.Reflects (get >>= f) (get >>= g) :=
  fun s t alike => h s t alike s t alike

theorem change {f : Ledger → Ledger}
    (blind : ∀ l j, f { l with journal := j } = { f l with journal := j }) :
    M.Reflects (change f : LedgerM σ Unit) (change f) := by
  intro s t alike
  have after : f t.ledger = { f s.ledger with journal := t.ledger.journal } := by
    rw [← blind, ← alike.ledger]
  have kept : (f s.ledger).journal = s.ledger.journal :=
    (congrArg Ledger.journal (blind s.ledger s.ledger.journal) :)
  refine .ok ⟨?_, ?_, alike.host⟩
  · rw [after]
  · rw [after, kept]
    exact alike.journal

theorem emit (e : Event) : M.Reflects (emit e : LedgerM σ Unit) (emit e) := by
  intro s t alike
  refine .ok ⟨?_, M.push e alike.journal, alike.host⟩
  rw [alike.ledger]

theorem perform (blame : String → LedgerError) (effects : List Effect) :
    M.Reflects (perform blame effects : LedgerM σ ExecutionReceipt) (perform blame effects) := by
  intro s t alike
  rw [LedgerM.perform, LedgerM.perform]
  have answers := M.apply effects alike.host
  generalize ExecutionHost.apply s.host effects = r at answers ⊢
  generalize ExecutionHost.apply t.host effects = r' at answers ⊢
  cases answers with
  | ok host => exact .ok ⟨alike.ledger, alike.journal, host⟩
  | error => exact .error alike

end Reflects

/-! ## Operations -/

variable (M)

theorem reflects_requireOperational : M.Reflects requireOperational requireOperational :=
  .ledger_bind fun _ _ => .require _ _

theorem reflects_requireCapacity (forceUpdate : Bool) :
    M.Reflects (requireCapacity forceUpdate) (requireCapacity forceUpdate) :=
  .ledger_bind fun _ _ => .bind (.require _ _) fun _ => .require _ _

theorem reflects_announceOutcome (o : PublishOutcome) (block : BlockContext) :
    M.Reflects (announceOutcome o block) (announceOutcome o block) := by
  rw [announceOutcome, announceOutcome]
  cases o.event? block with
  | some e => exact .emit e
  | none => exact .pure _

theorem reflects_publishLocalRoot (D : Deployment) (block : BlockContext) :
    M.Reflects (publishLocalRoot D block) (publishLocalRoot D block) := by
  refine .ledger_bind fun l _ => .bind (.ofResult _) fun (outcome?, roots) =>
    .bind (.change fun _ _ => rfl) fun _ => ?_
  cases outcome? with
  | none => exact .pure _
  | some outcome => exact .bind (M.reflects_announceOutcome outcome block) fun _ => .pure _

theorem reflects_commitDeposit (D : Deployment) (leaf : Leaf) (metadata : Bytes)
    (forceUpdate : Bool) (block : BlockContext) :
    M.Reflects (commitDeposit D leaf metadata forceUpdate block)
      (commitDeposit D leaf metadata forceUpdate block) := by
  refine .ledger_bind fun l _ => .bind (.ofResult _) fun (index, tree) =>
    .bind (.change fun _ _ => rfl) fun _ => .bind (.emit _) fun _ => ?_
  cases forceUpdate with
  | true => exact .bind (M.reflects_publishLocalRoot D block) fun _ => .pure _
  | false => exact .bind (.pure _) fun _ => .pure _

theorem reflects_admitClaim (D : Deployment) (kind : LeafKind) (c : Claim) :
    M.Reflects (admitClaim D kind c) (admitClaim D kind c) :=
  .bind M.reflects_requireOperational fun _ => .ledger_bind fun _ _ => .bind (.ofResult _) fun _ =>
    .bind (.require _ _) fun _ => .pure _

theorem reflects_finishClaim (key : ScopeKey) (c : Claim) :
    M.Reflects (finishClaim key c) (finishClaim key c) :=
  .ledger_bind fun _ _ => .bind (.ofResult _) fun _ => .bind (.change fun _ _ => rfl) fun _ =>
    .emit _

theorem reflects_registerWrapped (D : Deployment) (c : Claim) (token : Address) :
    M.Reflects (registerWrapped D c token) (registerWrapped D c token) :=
  .ledger_bind fun _ _ => .bind (.ofResult _) fun _ => .bind (.change fun _ _ => rfl) fun _ =>
    .emit _

theorem reflects_bridgeAsset (D : Deployment) (sender : Address) (d : AssetDeposit)
    (block : BlockContext) :
    M.Reflects (bridgeAsset D sender d block) (bridgeAsset D sender d block) := by
  refine .bind M.reflects_requireOperational fun _ => .bind (.require _ _) fun _ =>
    .bind (M.reflects_requireCapacity _) fun _ => .get_bind fun s t alike => ?_
  have wrapped : t.ledger.wrapped = s.ledger.wrapped := by rw [alike.ledger]
  rw [wrapped, M.tokenMetadata d.token alike.host]
  exact .bind (.ofResult _) fun _ => .bind (.perform _ _) fun _ =>
    M.reflects_commitDeposit _ _ _ _ _

theorem reflects_bridgeMessage (D : Deployment) (sender : Address) (d : MessageDeposit)
    (block : BlockContext) :
    M.Reflects (bridgeMessage D sender d block) (bridgeMessage D sender d block) := by
  refine .bind M.reflects_requireOperational fun _ => .bind (.require _ _) fun _ =>
    .bind (.require _ _) fun _ => .bind (M.reflects_requireCapacity _) fun _ => ?_
  split
  · exact .bind (.discard (.perform _ _)) fun _ => M.reflects_commitDeposit _ _ _ _ _
  · exact M.reflects_commitDeposit _ _ _ _ _

theorem reflects_bridgeMessageWeth (D : Deployment) (sender : Address) (d : MessageDeposit)
    (amount : Amount) (block : BlockContext) :
    M.Reflects (bridgeMessageWeth D sender d amount block)
      (bridgeMessageWeth D sender d amount block) :=
  .bind M.reflects_requireOperational fun _ => .bind (.ofResult _) fun _ =>
    .bind (.require _ _) fun _ => .bind (.require _ _) fun _ =>
    .bind (M.reflects_requireCapacity _) fun _ => .bind (.discard (.perform _ _)) fun _ =>
    M.reflects_commitDeposit _ _ _ _ _

theorem reflects_claimAsset (D : Deployment) (c : Claim) :
    M.Reflects (claimAsset D c) (claimAsset D c) := by
  refine .bind (M.reflects_admitClaim D .asset c) fun key => .ledger_bind fun l _ =>
    .bind (.discard (.perform _ _)) fun _ => ?_
  dsimp only
  cases (selectAsset D l.wrapped c).newWrappedToken with
  | some token =>
    exact .bind (M.reflects_registerWrapped D c token) fun _ =>
      .bind (M.reflects_finishClaim key c) fun _ => .pure _
  | none => exact .bind (M.reflects_finishClaim key c) fun _ => .pure _

theorem reflects_claimMessage (D : Deployment) (c : Claim) :
    M.Reflects (claimMessage D c) (claimMessage D c) :=
  .bind (M.reflects_admitClaim D .message c) fun key => .bind (.discard (.perform _ _)) fun _ =>
    .bind (M.reflects_finishClaim key c) fun _ => .pure _

theorem reflects_updateRollupExitRoot (D : Deployment) (index : UInt32) (root : Digest)
    (block : BlockContext) : M.Reflects (updateRollupExitRoot D index root block)
      (updateRollupExitRoot D index root block) := by
  refine .ledger_bind fun l _ => ?_
  dsimp only
  cases l.roots with
  | replica r => exact .throw _
  | authority a =>
    exact .bind (.ofResult _) fun (outcome, _) => .bind (.change fun _ _ => rfl) fun _ =>
      .bind (M.reflects_announceOutcome outcome block) fun _ => .pure _

theorem reflects_importGlobalExitRoot (D : Deployment) (roots : GlobalExitRoot)
    (timestamp : UInt64) : M.Reflects (importGlobalExitRoot D roots timestamp)
      (importGlobalExitRoot D roots timestamp) := by
  refine .ledger_bind fun l _ => ?_
  dsimp only
  cases l.roots with
  | authority a => exact .throw _
  | replica r => exact .bind (.change fun _ _ => rfl) fun _ => .pure _

theorem reflects_ingestEvents (D : Deployment) (events : List Event) :
    M.Reflects (ingestEvents D events) (ingestEvents D events) := by
  fun_induction ingestEvents (σ := σ) D events with
  | case1 => exact .pure _
  | case2 e rest ih =>
    exact .bind (M.reflects_importGlobalExitRoot D _ _) fun _ => .bind ih fun _ => .pure _
  | case3 event rest other ih =>
    rwa [ingestEvents]
    exact other

theorem reflects_activateEmergencyState :
    M.Reflects activateEmergencyState activateEmergencyState :=
  .ledger_bind fun _ _ => .bind (.require _ _) fun _ => .bind (.change fun _ _ => rfl) fun _ =>
    .emit _

theorem reflects_deactivateEmergencyState :
    M.Reflects deactivateEmergencyState deactivateEmergencyState :=
  .ledger_bind fun _ _ => .bind (.require _ _) fun _ => .bind (.change fun _ _ => rfl) fun _ =>
    .emit _

/-- **A call ends in the same way** over states that are alike. -/
theorem reflects_run (D : Deployment) (call : Call) : M.Reflects (call.run D) (call.run D) := by
  cases call with
  | bridgeAsset sender d block => exact .map (M.reflects_bridgeAsset D sender d block)
  | bridgeMessage sender d block => exact .map (M.reflects_bridgeMessage D sender d block)
  | bridgeMessageWeth sender d amount block =>
    exact .map (M.reflects_bridgeMessageWeth D sender d amount block)
  | claim kind c =>
    cases kind with
    | asset => exact .map (M.reflects_claimAsset D c)
    | message => exact .map (M.reflects_claimMessage D c)
  | updateGlobalExitRoot block => exact .map (M.reflects_publishLocalRoot D block)
  | updateRollupExitRoot index root block =>
    exact .map (M.reflects_updateRollupExitRoot D index root block)
  | importGlobalExitRoot roots timestamp =>
    exact .map (M.reflects_importGlobalExitRoot D roots timestamp)
  | ingestPeerEvents batch => exact .map (M.reflects_ingestEvents D _)
  | activateEmergencyState => exact .map M.reflects_activateEmergencyState
  | deactivateEmergencyState => exact .map M.reflects_deactivateEmergencyState

end Mirror

end ExitBridge
