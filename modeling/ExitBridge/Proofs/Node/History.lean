/-
  The operations of one node, one after another.

  * `NodeStep`: an operation and the node that met it; `NodeStep.events`: what it tells.
  * `NodeCall.answer`: how an operation ends; `NodeCall.answer_eq`: as its call to the ledger does.
  * `Operating`: the operations of a node since it was created from settings.
  * `Operating.journal`: the journal has been told of all events in turn.
-/
import ExitBridge.Proofs.Ledger.Told
import ExitBridge.Proofs.Node.Follow

namespace ExitBridge

open LedgerM

/-! ## Answers -/

namespace NodeCall

/-- How an operation ends. -/
def answer (n : Node) : NodeCall → Except LedgerError Answer
  | bridgeAsset now sender d => (n.bridgeAsset now sender d).1.map .deposit
  | bridgeMessage now sender d => (n.bridgeMessage now sender d).1.map .deposit
  | claim kind c => (n.claim kind c).1.map .claim
  | updateGlobalExitRoot now force => (n.updateGlobalExitRoot now force).1.map .published
  | updateRollupExitRoot now index root =>
    (n.updateRollupExitRoot now index root).1.map fun d => .published (some d)
  | ingest batch => (n.ingest batch).1.map .learned
  | setEmergencyState active => (n.setEmergencyState active).1.map fun _ => .done

end NodeCall

namespace Node

variable {α : Type} {n : Node} {call : Call} {op : LedgerM Book α} {f : α → Answer}

theorem answer_perform (h : call.run n.deployment = f <$> op) :
    (⟨n.bridge, call⟩ : Step Book).answer n.deployment = (n.perform op).1.map f := by
  unfold perform Step.answer
  simp only [h]
  cases hop : op n.bridge with
  | ok a s => rw [map_eq_ok.2 ⟨a, hop, rfl⟩]; rfl
  | error e s => rw [map_eq_error.2 hop]; rfl

theorem fst_publish (n : Node) (now : UInt64) (op : BlockContext → LedgerM Book α) :
    (n.publish now op).1 = ((n.drawBlock now).2.perform (op (n.drawBlock now).1)).1 := by
  unfold publish
  simp only
  split
  · rename_i ok
    rw [ok]
  · rename_i refused
    rw [refused]

theorem fst_ingest (n : Node) (batch : EventBatch) :
    (n.ingest batch).1 = (n.perform (ExitBridge.ingestPeerEvents n.deployment batch)).1 := by
  unfold ingest
  split
  · rename_i ok
    rw [ok]
  · rename_i refused
    rw [refused]

theorem fst_setEmergencyState (n : Node) (active : Bool) : (n.setEmergencyState active).1 =
    (n.perform (if active then activateEmergencyState else deactivateEmergencyState)).1 := by
  unfold setEmergencyState
  split
  · rename_i ok
    rw [ok]
  · rename_i refused
    rw [refused]

theorem fst_claim (n : Node) (kind : LeafKind) (c : Claim) :
    (n.claim kind c).1 = (n.perform (match kind with
      | .asset => claimAsset n.deployment c
      | .message => claimMessage n.deployment c)).1 := by
  unfold claim
  simp only
  generalize n.perform _ = r
  obtain ⟨e | receipt, n₁⟩ := r
  · rfl
  · rfl

end Node

namespace NodeCall

variable {n : Node} {c : NodeCall} {call : Call}

/-- An operation ends as its call to the ledger does. -/
theorem answer_eq (h : c.call? n = some call) :
    c.answer n = (⟨n.bridge, call⟩ : Step Book).answer n.deployment := by
  cases c with
  | bridgeAsset now sender d =>
    obtain rfl := Option.some.inj h
    exact (Node.answer_perform (n := (n.drawBlock now).2) rfl).symm
  | bridgeMessage now sender d =>
    obtain rfl := Option.some.inj h
    exact (Node.answer_perform (n := (n.drawBlock now).2) rfl).symm
  | claim kind c =>
    obtain rfl := Option.some.inj h
    rw [answer, Node.fst_claim]
    cases kind with
    | asset => exact (Node.answer_perform rfl).symm
    | message => exact (Node.answer_perform rfl).symm
  | updateGlobalExitRoot now force =>
    rw [call?] at h
    rw [answer, Node.updateGlobalExitRoot]
    split at h
    · cases h
    · rename_i due
      obtain rfl := Option.some.inj h
      rw [if_neg due, Node.fst_publish]
      exact (Node.answer_perform (n := (n.drawBlock now).2) rfl).symm
  | updateRollupExitRoot now index root =>
    obtain rfl := Option.some.inj h
    rw [answer, Node.updateRollupExitRoot, Node.fst_publish]
    exact (Node.answer_perform (n := (n.drawBlock now).2) rfl).symm
  | ingest batch =>
    obtain rfl := Option.some.inj h
    rw [answer, Node.fst_ingest]
    exact (Node.answer_perform rfl).symm
  | setEmergencyState active =>
    obtain rfl := Option.some.inj h
    rw [answer, Node.fst_setEmergencyState]
    cases active with
    | false => exact (Node.answer_perform rfl).symm
    | true => exact (Node.answer_perform rfl).symm

theorem answer_of_own_network (operational : n.ledger.emergency = false) (now : UInt64)
    (sender : Address) {d : MessageDeposit}
    (own : d.destinationNetwork = n.deployment.config.networkId) :
    (bridgeMessage now sender d).answer n = .error
      (.destinationNetworkInvalid d.destinationNetwork n.deployment.config.networkId) := by
  have refused : ExitBridge.bridgeMessage n.deployment sender d (n.drawBlock now).1 n.bridge =
      .error (.destinationNetworkInvalid d.destinationNetwork n.deployment.config.networkId)
        n.bridge := by
    rw [ExitBridge.bridgeMessage, bind_eq_error]
    refine .inr ⟨(), n.bridge, requireOperational_eq_ok.2 ⟨operational, rfl⟩, ?_⟩
    rw [bind_eq_error, requireOtherNetwork, require_eq_error, own]
    exact .inl ⟨bne_self_eq_false _, rfl, rfl⟩
  rw [answer_eq rfl, Step.answer, Call.run, map_eq_error.2 refused]

end NodeCall

/-! ## Histories -/

theorem filterMap_snoc {α β : Type} (f : α → Option β) (past : List α) (a : α) :
    (past ++ [a]).filterMap f = past.filterMap f ++ (f a).toList := by
  rw [List.filterMap_append, List.filterMap_eq_flatMap_toList f [a], List.flatMap_singleton]

/-- An operation, and the node that met it. -/
structure NodeStep where
  before : Node
  call : NodeCall

namespace NodeStep

/-- The node after the operation. -/
def after (m : NodeStep) : Node := m.call.run m.before

/-- What the operation tells. -/
def events (m : NodeStep) : List Event :=
  match m.call.call? m.before with
  | none => []
  | some call => (⟨m.before.bridge, call⟩ : Step Book).events m.before.deployment

/-- How it ends. -/
def answer (m : NodeStep) : Except LedgerError Answer := m.call.answer m.before

/-- The node has the same deployment, and its ledger makes the moves that are told of. An operation
    that makes no call, or whose call fails, makes none. -/
theorem exists_told (m : NodeStep) : m.after.deployment = m.before.deployment ∧
    ∃ moves, m.before.ledger.Chain m.before.deployment moves m.after.ledger ∧
      m.events = moves.flatMap Move.events ∧
      ((∃ call answer, m.call.call? m.before = some call ∧ m.answer = .ok answer ∧
          call.Makes m.before.deployment m.before.bridge answer moves m.after.bridge.host) ∨
        (m.call.call? m.before = none ∨ ∃ e, m.answer = .error e) ∧ moves = []) := by
  rw [after, events]
  cases hc : m.call.call? m.before with
  | none =>
    rw [NodeCall.run_of_call?_eq_none hc]
    exact ⟨rfl, [], .nil, rfl, .inr ⟨.inl rfl, rfl⟩⟩
  | some call =>
    have called := NodeCall.called hc
    obtain ⟨moves, chain, told, step⟩ :=
      (⟨m.before.bridge, call⟩ : Step Book).exists_told m.before.deployment
    rw [called.ledger, called.bridge, answer, NodeCall.answer_eq hc]
    refine ⟨called.deployment, moves, chain, told, ?_⟩
    rcases step with ⟨answer, answered, makes⟩ | ⟨⟨e, refused⟩, none⟩
    · exact .inl ⟨call, answer, rfl, answered, makes⟩
    · exact .inr ⟨.inr ⟨e, refused⟩, none⟩

theorem ledger_of_error {m : NodeStep} {e : LedgerError} (refused : m.answer = .error e) :
    m.after.ledger = m.before.ledger := by
  obtain ⟨-, moves, chain, -, ⟨_, _, -, answered, -⟩ | ⟨-, rfl⟩⟩ := m.exists_told
  · rw [refused] at answered
    cases answered
  · exact chain.eq_of_nil

end NodeStep

theorem Node.fresh_of_create {H : NodeHasher} {s : Settings} {n : Node} (h : create H s = .ok n) :
    n.metrics = .empty ∧ n.clock = .ofGenesis .zero := by
  unfold create at h
  split at h
  · cases h
  · cases h
    exact ⟨rfl, rfl⟩

/-- The operations of a node so far, oldest first, and the node now. Between operations its book may
    be handled by others. -/
inductive Operating (H : NodeHasher) (s : Settings) : List NodeStep → Node → Prop
  | start {n : Node} (created : Node.create H s = .ok n) : Operating H s [] n
  | operation {past : List NodeStep} {m : NodeStep} (operating : Operating H s past m.before) :
      Operating H s (past ++ [m]) m.after
  | handled {past : List NodeStep} {n : Node} {b : Book} (operating : Operating H s past n)
      (change : n.bridge.host.Handled b) :
      Operating H s past { n with bridge := { n.bridge with host := b } }

namespace Operating

variable {H : NodeHasher} {s : Settings} {past : List NodeStep} {n : Node}

theorem hasher (operating : Operating H s past n) : n.deployment.hasher = H := by
  induction operating with
  | start created => exact (Node.create_eq_ok created).1
  | @operation past m _ ih => rw [m.exists_told.1, ih]
  | handled _ _ ih => exact ih

theorem invariant {P : Ledger → Prop} (operating : Operating H s past n)
    (genesis : P (Deployment.genesis s.ledgerConfig))
    (move : ∀ {D l m l'}, l.Moves D m l' → P l → P l') : P n.ledger := by
  induction operating with
  | start created => rwa [(Node.create_eq_ok created).2.1]
  | @operation past m _ ih =>
    obtain ⟨-, moves, chain, -⟩ := m.exists_told
    exact chain.preserves (fun _ => move) ih
  | handled _ _ ih => exact ih

theorem isAuthority (operating : Operating H s past n) :
    n.ledger.roots.isAuthority = s.aggregatorAuthority := by
  refine operating.invariant (P := fun l => l.roots.isAuthority = s.aggregatorAuthority) ?_
    fun moved same => moved.isAuthority.trans same
  rw [Deployment.genesis, Node.isAuthority_ledgerConfig]
  cases s.aggregatorAuthority <;> rfl

theorem journal (operating : Operating H s past n) :
    n.ledger.journal = (Journal.empty s.journalRetention).pushAll (past.flatMap (·.events)) := by
  induction operating with
  | start created =>
    rw [(Node.create_eq_ok created).2.1]
    unfold Deployment.genesis Settings.ledgerConfig
    rfl
  | @operation past m _ ih =>
    obtain ⟨-, moves, chain, told, -⟩ := m.exists_told
    rw [chain.journal, ih, List.flatMap_append, List.flatMap_singleton, told, Journal.pushAll,
      Journal.pushAll, Journal.pushAll, List.foldl_append]
  | handled _ _ ih => exact ih

end Operating

/-! ## A first node -/

/-- The settings of network 0 as the authority, and nothing else. -/
def Settings.soleAuthority : Settings :=
  { (default : Settings) with
    aggregatorAuthority := true
    bridgeAddress := LedgerConfig.standard.bridgeAddress }

theorem Node.exists_create_soleAuthority : ∃ n, create .keccak .soleAuthority = .ok n ∧
    n.ledger = Deployment.genesis Settings.soleAuthority.ledgerConfig ∧
    n.deployment.config.networkId = 0 := by
  obtain ⟨n, created⟩ := exists_create .keccak (s := .soleAuthority)
    (LedgerConfig.validate_authority 0 (by decide)) rfl
  refine ⟨n, created, (create_eq_ok created).2.1, ?_⟩
  rw [(Deployment.create_eq_ok (deployed_of_create created).1).2.2.1]
  rfl

end ExitBridge
