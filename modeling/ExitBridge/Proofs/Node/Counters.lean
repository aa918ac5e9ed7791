/-
  What a node counts, against what its ledger has done.

  Counters are bumped beside the ledger, by how an operation ends; the ledger tells of what it does
  in events. Both are compared with the tally of each operation.

  * `Tally`, `NodeStep.tally`: what an operation adds to the counters, by how it ends.
  * `NodeStep.gains`: the counters gain the tally, and nothing else.
  * `NodeStep.told`, `NodeStep.knownCount`: so do the events, and what a replica knows.
  * `Node.Counted`, `NodeStep.counted`: what the counters are after a history, one operation more.
  * `counters_agree`: over all histories of a node.
-/
import ExitBridge.Proofs.Node.History
import ExitBridge.Proofs.Session.Claims
import ExitBridge.Proofs.Session.Deposits

namespace ExitBridge

open LedgerM

/-! ## Tallies -/

/-- What an operation adds to the counters: a deposit or a claim of a kind, a refusal, and a number
    of global exit roots that were new. -/
structure Tally where
  deposit? : Option LeafKind
  claim? : Option LeafKind
  rejection? : Option (Operation × String)
  imported : Nat

/-- How many global exit roots were new. -/
def Answer.learnedCount : Answer → Nat
  | learned count => count
  | _ => 0

namespace NodeCall

/-- The kind of leaf that an operation deposits. -/
def depositKind? : NodeCall → Option LeafKind
  | bridgeAsset .. => some .asset
  | bridgeMessage .. => some .message
  | _ => none

/-- The kind of leaf that an operation claims. -/
def claimKind? : NodeCall → Option LeafKind
  | claim kind _ => some kind
  | _ => none

/-- What is counted as rejected if an operation fails. -/
def operation? : NodeCall → Option Operation
  | bridgeAsset .. | bridgeMessage .. => some .deposit
  | claim .. => some .claim
  | _ => none

/-- The tally of an operation that ends with an answer. -/
def tally (c : NodeCall) : Except LedgerError Answer → Tally
  | .ok answer => ⟨c.depositKind?, c.claimKind?, none, answer.learnedCount⟩
  | .error e => ⟨none, none, c.operation?.map (·, e.code), 0⟩

variable {c : NodeCall}

theorem tally_ok_of_depositKind? {kind : LeafKind} (h : c.depositKind? = some kind)
    (receipt : DepositReceipt) : c.tally (.ok (.deposit receipt)) = ⟨some kind, none, none, 0⟩ := by
  cases c <;> cases h <;> rfl

theorem tally_error_of_depositKind? {kind : LeafKind} (h : c.depositKind? = some kind)
    (e : LedgerError) : c.tally (.error e) = ⟨none, none, some (.deposit, e.code), 0⟩ := by
  cases c <;> cases h <;> rfl

theorem tally_ok_of_quiet (quiet : c.operation? = none) (answer : Answer) :
    c.tally (.ok answer) = ⟨none, none, none, answer.learnedCount⟩ := by
  cases c <;> cases quiet <;> rfl

theorem tally_error_of_quiet (quiet : c.operation? = none) (e : LedgerError) :
    c.tally (.error e) = ⟨none, none, none, 0⟩ := by
  rw [tally, quiet, Option.map_none]

end NodeCall

/-- What an operation adds to the counters. -/
def NodeStep.tally (m : NodeStep) : Tally := m.call.tally m.answer

/-! ## Counters -/

namespace Counts

variable {α : Type} [DecidableEq α]

/-- The labels that have occurred, each as often as it is counted. -/
structure Tell (c : Counts α) (labels : List α) : Prop where
  count : ∀ a, c.count a = labels.countP (· = a)
  total : c.total = labels.length

theorem tell_empty : (empty : Counts α).Tell [] := ⟨fun _ => rfl, rfl⟩

theorem Tell.snoc {c : Counts α} {labels : List α} (h : c.Tell labels) (a? : Option α) :
    (a?.elim c c.increment).Tell (labels ++ a?.toList) := by
  cases a? with
  | none => simpa using h
  | some a =>
    refine ⟨fun b => ?_, ?_⟩
    · rw [Option.elim_some, count_increment, h.count, Option.toList_some, List.countP_append,
        List.countP_singleton]
      simp only [decide_eq_true_eq, @eq_comm _ b a]
    · rw [Option.elim_some, total_increment, h.total, Option.toList_some, List.length_append,
        List.length_singleton]

end Counts

/-- The counters have gained a tally, and the gauge of deposits is right if it was. -/
structure Node.Gains (t : Tally) (n n' : Node) : Prop where
  deposits : n'.metrics.deposits = t.deposit?.elim n.metrics.deposits n.metrics.deposits.increment
  claims : n'.metrics.claims = t.claim?.elim n.metrics.claims n.metrics.claims.increment
  rejections : n'.metrics.rejections =
    t.rejection?.elim n.metrics.rejections n.metrics.rejections.increment
  imported : n'.metrics.imported = n.metrics.imported + t.imported
  depositCount : n'.metrics.depositCount = n'.ledger.tree.count ∨
    t.deposit? = none ∧ n'.metrics.depositCount = n.metrics.depositCount

namespace Node

variable {α : Type} {n n₁ n' : Node} {t : Tally}

theorem Gains.of_metrics (metrics : n₁.metrics = n.metrics) (gains : n₁.Gains t n') :
    n.Gains t n' := by
  obtain ⟨deposits, claims, rejections, imported, depositCount⟩ := gains
  rw [metrics] at deposits claims rejections imported depositCount
  exact ⟨deposits, claims, rejections, imported, depositCount⟩

@[simp] theorem metrics_perform (n : Node) (op : LedgerM Book α) :
    (n.perform op).2.metrics = n.metrics := by
  unfold perform
  split <;> rfl

theorem Gains.countPublished (gains : n.Gains t n') (before : Nat) :
    n.Gains t (n'.countPublished before) := by
  unfold Node.countPublished
  split
  · exact ⟨gains.deposits, gains.claims, gains.rejections, gains.imported, gains.depositCount⟩
  · exact gains

variable {c : NodeCall}

theorem gains_deposit {kind : LeafKind} (made : c.depositKind? = some kind) (n : Node)
    (now : UInt64) (op : BlockContext → LedgerM Book DepositReceipt) :
    n.Gains (c.tally ((n.deposit now kind op).1.map .deposit)) (n.deposit now kind op).2 := by
  have metrics := (n.drawBlock now).2.metrics_perform (op (n.drawBlock now).1)
  unfold deposit
  simp only
  generalize (n.drawBlock now).2.perform (op (n.drawBlock now).1) = r at metrics ⊢
  obtain ⟨e | receipt, n₁⟩ := r
  · rw [Except.map, NodeCall.tally_error_of_depositKind? made]
    exact .of_metrics metrics ⟨rfl, rfl, rfl, rfl, .inr ⟨rfl, rfl⟩⟩
  · rw [Except.map, NodeCall.tally_ok_of_depositKind? made]
    exact .of_metrics metrics ⟨rfl, rfl, rfl, rfl, .inl rfl⟩

theorem gains_claim (n : Node) (kind : LeafKind) (c : Claim) :
    n.Gains (NodeCall.tally (.claim kind c) ((n.claim kind c).1.map .claim))
      (n.claim kind c).2 := by
  unfold claim
  simp only
  generalize run : n.perform _ = r
  have metrics : r.2.metrics = n.metrics := run ▸ n.metrics_perform _
  obtain ⟨e | receipt, n₁⟩ := r
  · exact .of_metrics metrics ⟨rfl, rfl, rfl, rfl, .inr ⟨rfl, rfl⟩⟩
  · exact .of_metrics metrics ⟨rfl, rfl, rfl, rfl, .inr ⟨rfl, rfl⟩⟩

theorem gains_publish (quiet : c.operation? = none) {f : α → Answer}
    (learnsNothing : ∀ a, (f a).learnedCount = 0) (n : Node) (now : UInt64)
    (op : BlockContext → LedgerM Book α) :
    n.Gains (c.tally ((n.publish now op).1.map f)) (n.publish now op).2 := by
  have metrics := (n.drawBlock now).2.metrics_perform (op (n.drawBlock now).1)
  unfold publish
  simp only
  generalize (n.drawBlock now).2.perform (op (n.drawBlock now).1) = r at metrics ⊢
  obtain ⟨e | a, n₁⟩ := r
  · rw [Except.map, NodeCall.tally_error_of_quiet quiet]
    exact .of_metrics metrics ⟨rfl, rfl, rfl, rfl, .inr ⟨rfl, rfl⟩⟩
  · rw [Except.map, NodeCall.tally_ok_of_quiet quiet, learnsNothing]
    have gains : n₁.Gains ⟨none, none, none, 0⟩ n₁.refreshGauges := ⟨rfl, rfl, rfl, rfl, .inl rfl⟩
    exact .of_metrics metrics (gains.countPublished n.knownCount)

theorem gains_ingest (n : Node) (batch : EventBatch) :
    n.Gains (NodeCall.tally (.ingest batch) ((n.ingest batch).1.map .learned))
      (n.ingest batch).2 := by
  have metrics := n.metrics_perform (ExitBridge.ingestPeerEvents n.deployment batch)
  unfold ingest
  generalize n.perform (ExitBridge.ingestPeerEvents n.deployment batch) = r at metrics ⊢
  obtain ⟨e | count, n₁⟩ := r
  · exact .of_metrics metrics ⟨rfl, rfl, rfl, rfl, .inr ⟨rfl, rfl⟩⟩
  · exact .of_metrics metrics ⟨rfl, rfl, rfl, rfl, .inl rfl⟩

theorem gains_setEmergencyState (n : Node) (active : Bool) :
    n.Gains (NodeCall.tally (.setEmergencyState active)
      ((n.setEmergencyState active).1.map fun _ => .done)) (n.setEmergencyState active).2 := by
  have metrics := n.metrics_perform
    (if active then activateEmergencyState else deactivateEmergencyState)
  unfold setEmergencyState
  generalize n.perform (if active then activateEmergencyState else deactivateEmergencyState) = r
    at metrics ⊢
  obtain ⟨e | u, n₁⟩ := r
  · exact .of_metrics metrics ⟨rfl, rfl, rfl, rfl, .inr ⟨rfl, rfl⟩⟩
  · exact .of_metrics metrics ⟨rfl, rfl, rfl, rfl, .inl rfl⟩

end Node

/-- **The counters gain the tally** of an operation, and nothing else. -/
theorem NodeStep.gains (m : NodeStep) : m.before.Gains m.tally m.after := by
  obtain ⟨n, c⟩ := m
  rw [tally, answer, after]
  cases c with
  | bridgeAsset now sender d => exact Node.gains_deposit rfl n now _
  | bridgeMessage now sender d => exact Node.gains_deposit rfl n now _
  | claim kind c => exact n.gains_claim kind c
  | updateGlobalExitRoot now force =>
    rw [NodeCall.answer, NodeCall.run, Node.updateGlobalExitRoot]
    split
    · exact ⟨rfl, rfl, rfl, rfl, .inr ⟨rfl, rfl⟩⟩
    · exact Node.gains_publish rfl (fun _ => rfl) n now _
  | updateRollupExitRoot now index root => exact Node.gains_publish rfl (fun _ => rfl) n now _
  | ingest batch => exact n.gains_ingest batch
  | setEmergencyState active => exact n.gains_setEmergencyState active

/-! ## What is told -/

namespace Call

/-- The kind of leaf that a call deposits. -/
def depositKind? : Call → Option LeafKind
  | bridgeAsset .. => some .asset
  | bridgeMessage .. | bridgeMessageWeth .. => some .message
  | _ => none

variable {σ : Type} [ExecutionHost σ] {D : Deployment} {s : BridgeState σ} {host : σ} {call : Call}
  {answer : Answer} {moves : List Move}

theorem Deposits.kinds {receipt : DepositReceipt} {e : BridgeEvent}
    (h : call.Deposits D s receipt e host) :
    call.depositKind? = some e.kind ∧ call.claim? = none := by
  have event := h.event
  unfold deposit? at event
  split at event
  · split at event
    · cases event
    · obtain rfl := Option.some.inj event
      exact ⟨rfl, rfl⟩
  · obtain rfl := Option.some.inj event
    exact ⟨rfl, rfl⟩
  · obtain rfl := Option.some.inj event
    exact ⟨rfl, rfl⟩
  · cases event

/-- The moves of a call append the leaf that it deposits, and mark the claim that it makes. -/
theorem Makes.kinds (h : call.Makes D s answer moves host) :
    (moves.filterMap Move.deposit?).map (·.kind) = call.depositKind?.toList ∧
      (moves.filterMap Move.marks?).length = call.claim?.toList.length := by
  cases h with
  | deposit deposits =>
    obtain ⟨kind, noClaim⟩ := deposits.kinds
    rw [kind, noClaim]
    exact ⟨rfl, rfl⟩
  | depositPublished deposits =>
    obtain ⟨kind, noClaim⟩ := deposits.kinds
    rw [kind, noClaim]
    exact ⟨rfl, rfl⟩
  | @claim kind c receipt key host honours =>
    rw [Claim.moves, List.filterMap_append, List.filterMap_append]
    cases receipt.newWrappedToken <;> exact ⟨rfl, rfl⟩
  | ingest =>
    rw [Move.filterMap_lessons (fun _ _ => rfl), Move.filterMap_lessons (fun _ _ => rfl)]
    exact ⟨rfl, rfl⟩
  | _ => exact ⟨rfl, rfl⟩

end Call

theorem NodeCall.kinds_of_call? {n : Node} {c : NodeCall} {call : Call}
    (h : c.call? n = some call) :
    call.depositKind? = c.depositKind? ∧ call.claim?.map Prod.fst = c.claimKind? := by
  cases c with
  | updateGlobalExitRoot now force =>
    rw [call?] at h
    split at h
    · cases h
    · obtain rfl := Option.some.inj h
      exact ⟨rfl, rfl⟩
  | setEmergencyState active =>
    obtain rfl := Option.some.inj h
    cases active <;> exact ⟨rfl, rfl⟩
  | _ =>
    obtain rfl := Option.some.inj h
    exact ⟨rfl, rfl⟩

namespace NodeStep

theorem tally_of_no_call {m : NodeStep} (idle : m.call.call? m.before = none) :
    m.tally.deposit? = none ∧ m.tally.claim? = none := by
  obtain ⟨n, c⟩ := m
  cases c with
  | updateGlobalExitRoot now force =>
    rw [tally]
    cases answer ⟨n, .updateGlobalExitRoot now force⟩ <;> exact ⟨rfl, rfl⟩
  | _ => cases idle

/-- An operation tells of the deposit and of the claim in its tally. -/
theorem told (m : NodeStep) :
    (m.events.filterMap Event.deposit?).map (·.kind) = m.tally.deposit?.toList ∧
      (m.events.filterMap Event.claim?).length = m.tally.claim?.toList.length := by
  obtain ⟨-, moves, -, events, made | ⟨failed, silent⟩⟩ := m.exists_told
  · obtain ⟨call, answer, called, answered, makes⟩ := made
    obtain ⟨kind, claims⟩ := makes.kinds
    obtain ⟨same, same'⟩ := NodeCall.kinds_of_call? called
    have claimed : moves.filterMap (fun m => m.marks?.map Prod.snd) =
        (moves.filterMap Move.marks?).map Prod.snd := List.map_filterMap.symm
    rw [events, Move.filterMap_flatMap_events Move.deposits_events,
      Move.filterMap_flatMap_events Move.claims_events, claimed, List.length_map, kind, claims,
      tally, answered, NodeCall.tally, same, ← same']
    exact ⟨rfl, by cases call.claim? <;> rfl⟩
  · have nothing : m.tally.deposit? = none ∧ m.tally.claim? = none := by
      rcases failed with idle | ⟨e, refused⟩
      · exact tally_of_no_call idle
      · rw [tally, refused]
        exact ⟨rfl, rfl⟩
    rw [events, silent, nothing.1, nothing.2]
    exact ⟨rfl, rfl⟩

end NodeStep

/-! ## Replicas -/

namespace Ledger

variable {D : Deployment} {l l' : Ledger} {m : Move} {moves : List Move}

theorem Moves.knownCount (h : l.Moves D m l') (replica : l.roots.isAuthority = false)
    (quiet : m.lesson? = none) : l'.roots.knownCount = l.roots.knownCount := by
  rcases h.roots_cases with ⟨block, outcome?, -, -, announces⟩ |
    ⟨r, roots, timestamp, rfl, -, -⟩ | ⟨-, -, same⟩
  · generalize l.roots = s, l'.roots = s' at announces replica ⊢
    cases announces with
    | authority => cases replica
    | replica registry => exact congrArg Std.HashMap.size registry
  · cases quiet
  · rw [same]

theorem Chain.knownCount (h : l.Chain D moves l') (replica : l.roots.isAuthority = false)
    (quiet : moves.filterMap Move.lesson? = []) :
    l'.roots.knownCount = l.roots.knownCount := by
  refine (h.preserves (P := fun l₁ => l₁.roots.isAuthority = false ∧
    l₁.roots.knownCount = l.roots.knownCount) (fun member moved same => ?_) ⟨replica, rfl⟩).2
  have silent := List.filterMap_eq_nil_iff.1 quiet _ member
  exact ⟨moved.isAuthority.trans same.1, (moved.knownCount same.1 silent).trans same.2⟩

end Ledger

theorem NodeCall.imported_of_map {α : Type} {f : α → Answer} (c : NodeCall)
    (learnsNothing : ∀ a, (f a).learnedCount = 0) (r : Except LedgerError α) :
    (c.tally (r.map f)).imported = 0 := by
  cases r with
  | error e => rfl
  | ok a => exact learnsNothing a

theorem NodeCall.imported_tally {c : NodeCall} (quiet : c.ingests = false) (n : Node) :
    (c.tally (c.answer n)).imported = 0 := by
  cases c with
  | ingest batch => cases quiet
  | _ => exact imported_of_map _ (fun _ => rfl) _

/-- A replica gets to know as many global exit roots as are counted as imported. -/
theorem NodeStep.knownCount {m : NodeStep} (replica : m.before.ledger.roots.isAuthority = false) :
    m.after.knownCount = m.before.knownCount + m.tally.imported := by
  cases quiet : m.call.ingests with
  | true =>
    obtain ⟨n, c⟩ := m
    cases c with
    | ingest batch =>
      obtain ⟨count, n', ingested⟩ := Node.exists_ingest replica batch
      rw [after, tally, answer, NodeCall.answer, NodeCall.run, ingested]
      exact (Node.ingest_eq_ok ingested).2.1
    | _ => cases quiet
  | false =>
    rw [tally, answer, NodeCall.imported_tally quiet, Nat.add_zero]
    obtain ⟨-, moves, chain, -, ⟨call, answer, called, -, makes⟩ | ⟨-, silent⟩⟩ := m.exists_told
    · exact chain.knownCount replica (makes.lessons.trans (NodeCall.lessons_of_call? quiet called))
    · exact chain.knownCount replica (by rw [silent, List.filterMap_nil])

/-! ## Histories -/

theorem Ledger.Takes.count {H : NodeHasher} {l : Ledger} {taken : List BridgeEvent}
    (takes : l.Takes H taken) : l.tree.count = taken.length := by
  rw [takes.tree.count, List.length_map]

/-- The counters of a node after a history of operations. -/
structure Node.Counted (past : List NodeStep) (n : Node) : Prop where
  deposits : n.metrics.deposits.Tell (past.filterMap (·.tally.deposit?))
  claims : n.metrics.claims.Tell (past.filterMap (·.tally.claim?))
  rejections : n.metrics.rejections.Tell (past.filterMap (·.tally.rejection?))
  imported : n.ledger.roots.isAuthority = false → n.metrics.imported = n.knownCount
  takes : n.ledger.Takes n.deployment.hasher ((past.flatMap (·.events)).filterMap Event.deposit?)
  depositCount : n.metrics.depositCount = n.ledger.tree.count

theorem NodeStep.counted {past : List NodeStep} {m : NodeStep} (counted : m.before.Counted past) :
    m.after.Counted (past ++ [m]) := by
  have gains := m.gains
  obtain ⟨deployment, moves, chain, events, -⟩ := m.exists_told
  have role : m.after.ledger.roots.isAuthority = m.before.ledger.roots.isAuthority :=
    chain.preserves (P := fun l => l.roots.isAuthority = m.before.ledger.roots.isAuthority)
      (fun _ moved same => moved.isAuthority.trans same) rfl
  have takes : m.after.ledger.Takes m.after.deployment.hasher
      (((past ++ [m]).flatMap (·.events)).filterMap Event.deposit?) := by
    rw [deployment, List.flatMap_append, List.flatMap_singleton, List.filterMap_append, events,
      Move.filterMap_flatMap_events Move.deposits_events]
    exact chain.takes counted.takes
  refine ⟨?_, ?_, ?_, fun replica => ?_, takes, ?_⟩
  · rw [gains.deposits, filterMap_snoc]
    exact counted.deposits.snoc _
  · rw [gains.claims, filterMap_snoc]
    exact counted.claims.snoc _
  · rw [gains.rejections, filterMap_snoc]
    exact counted.rejections.snoc _
  · rw [role] at replica
    rw [gains.imported, counted.imported replica, m.knownCount replica]
  · rcases gains.depositCount with read | ⟨none, unread⟩
    · exact read
    · -- without a deposit the tree has as many leaves as before
      have nothing := m.told.1
      rw [none, Option.toList_none, List.map_eq_nil_iff] at nothing
      have same := takes.count
      rw [List.flatMap_append, List.flatMap_singleton, List.filterMap_append, nothing,
        List.append_nil, ← counted.takes.count] at same
      rw [unread, counted.depositCount, same]

section Histories

variable {H : NodeHasher} {s : Settings} {past : List NodeStep} {n : Node}

theorem Operating.counted (operating : Operating H s past n) : n.Counted past := by
  induction operating with
  | @start n created =>
    obtain ⟨-, genesis, -⟩ := Node.create_eq_ok created
    obtain ⟨metrics, -⟩ := Node.fresh_of_create created
    refine ⟨?_, ?_, ?_, fun replica => ?_, ?_, ?_⟩
    · rw [metrics]
      exact Counts.tell_empty
    · rw [metrics]
      exact Counts.tell_empty
    · rw [metrics]
      exact Counts.tell_empty
    · rw [genesis] at replica
      rw [metrics, Node.knownCount, genesis, Deployment.genesis]
      cases s.ledgerConfig.isAggregatorAuthority <;> rfl
    · rw [genesis]
      exact Ledger.takes_genesis _ _
    · rw [metrics, genesis]
      rfl
  | operation _ ih => exact NodeStep.counted ih
  | handled _ _ ih =>
    exact ⟨ih.deposits, ih.claims, ih.rejections, ih.imported, ih.takes, ih.depositCount⟩

/-- The deposits and claims that a history tells of are those in its tallies. -/
theorem told_of_past (past : List NodeStep) :
    ((past.flatMap (·.events)).filterMap Event.deposit?).map (·.kind) =
        past.filterMap (·.tally.deposit?) ∧
      ((past.flatMap (·.events)).filterMap Event.claim?).length =
        (past.filterMap (·.tally.claim?)).length := by
  constructor
  · rw [List.filterMap_flatMap, List.map_flatMap, List.filterMap_eq_flatMap_toList]
    simp only [(NodeStep.told _).1]
  · rw [List.filterMap_flatMap, List.length_flatMap, List.filterMap_eq_flatMap_toList,
      List.length_flatMap]
    simp only [(NodeStep.told _).2]

/-- **Counters agree with the ledger.** Whatever operations a node has carried out, the journal has
    been told of their events in turn, and the deposits counted are as many as the leaves of the
    tree, of each kind as many as events tell of. The claims counted are as many as events tell of.
    The rejections counted are the deposits and claims that have failed, by operation and code. A
    replica counts as imported what it knows. The gauge of deposits is up to date. -/
theorem counters_agree (operating : Operating H s past n) :
    let told := past.flatMap (·.events)
    n.ledger.journal = (Journal.empty s.journalRetention).pushAll told ∧
      n.metrics.deposits.total = n.ledger.tree.count ∧
      (∀ kind, n.metrics.deposits.count kind =
        (told.filterMap Event.deposit?).countP (·.kind = kind)) ∧
      n.metrics.claims.total = (told.filterMap Event.claim?).length ∧
      n.metrics.rejections.total = past.countP (·.tally.rejection?.isSome) ∧
      (∀ operation code, n.metrics.rejections.count (operation, code) =
        past.countP (·.tally.rejection? = some (operation, code))) ∧
      (s.aggregatorAuthority = false → n.metrics.imported = n.knownCount) ∧
      n.metrics.depositCount = n.ledger.tree.count := by
  have counted := operating.counted
  obtain ⟨deposits, claims⟩ := told_of_past past
  refine ⟨operating.journal, ?_, fun kind => ?_, ?_, ?_, fun operation code => ?_,
    fun replica => ?_, counted.depositCount⟩
  · rw [counted.deposits.total, counted.takes.count, ← deposits, List.length_map]
  · rw [counted.deposits.count, ← deposits, List.countP_map]
    rfl
  · rw [counted.claims.total, claims]
  · rw [counted.rejections.total, List.length_filterMap_eq_countP]
  · rw [counted.rejections.count, List.countP_filterMap]
    refine List.countP_congr fun m _ => ?_
    cases m.tally.rejection? <;> simp
  · exact counted.imported (operating.isAuthority.trans replica)

end Histories

theorem exists_bridgeMessage {σ : Type} [ExecutionHost σ] {D : Deployment} {b : BridgeState σ}
    (block : BlockContext) (sender : Address) {d : MessageDeposit} (value : d.value = 0)
    (operational : b.ledger.emergency = false)
    (leaves : d.destinationNetwork ≠ D.config.networkId) (room : b.ledger.tree.isFull = false)
    (canPublish : d.forceUpdate = true → b.ledger.roots.canPublish = true) :
    ∃ receipt b', bridgeMessage D sender d block b = .ok receipt b' := by
  cases committed : commitMessage D sender d.value d block b with
  | error refusal b' => exact (false_of_commitDeposit_error committed room canPublish).elim
  | ok receipt b' =>
    refine ⟨receipt, b', ?_⟩
    simp only [bridgeMessage, bind_eq_ok, requireOperational_eq_ok, requireOtherNetwork_eq_ok,
      require_eq_ok, requireCapacity_eq_ok]
    refine ⟨(), b, ⟨operational, rfl⟩, (), b, ⟨leaves, rfl⟩, (), b, ⟨?_, rfl⟩, (), b,
      ⟨room, canPublish, rfl⟩, ?_⟩
    · rw [value]
      simp
    · rw [if_neg (not_not.2 value)]
      exact committed

/-- A message to the own network is refused, one to another network is sent; both are counted. -/
theorem counters_agree_two : ∃ (past : List NodeStep) (n : Node),
    Operating .keccak .soleAuthority past n ∧ n.ledger.tree.count = 1 ∧
      n.metrics.deposits.total = 1 ∧ n.metrics.deposits.count .message = 1 ∧
      n.metrics.rejections.count (.deposit, "DestinationNetworkInvalid") = 1 ∧
      n.metrics.depositCount = 1 := by
  let message (network : UInt32) : MessageDeposit :=
    { (default : MessageDeposit) with destinationNetwork := network }
  obtain ⟨n, created, genesis, network⟩ := Node.exists_create_soleAuthority
  obtain ⟨metrics, -⟩ := Node.fresh_of_create created
  -- the first message stays on the network
  let m : NodeStep := ⟨n, .bridgeMessage 0 .zero (message 0)⟩
  have operational : n.ledger.emergency = false := by
    rw [genesis]
    rfl
  have refused := NodeCall.answer_of_own_network operational 0 .zero
    (show (message 0).destinationNetwork = n.deployment.config.networkId from network.symm)
  -- the second one leaves it
  let m' : NodeStep := ⟨m.after, .bridgeMessage 0 .zero (message 1)⟩
  obtain ⟨receipt, sent⟩ : ∃ receipt, m'.answer = .ok (.deposit receipt) := by
    have ledger : m.after.ledger = n.ledger := m.ledger_of_error refused
    have operational : m.after.ledger.emergency = false := by
      rw [ledger, operational]
    have room : m.after.ledger.tree.isFull = false := by
      rw [ledger, genesis]
      rfl
    have leaves : (message 1).destinationNetwork ≠ m.after.deployment.config.networkId := by
      rw [m.exists_told.1, network]
      decide
    obtain ⟨receipt, b, ran⟩ :=
      exists_bridgeMessage (m.after.drawBlock 0).1 .zero rfl operational leaves room nofun
    refine ⟨receipt, ?_⟩
    rw [NodeStep.answer, NodeCall.answer_eq rfl, Step.answer, Call.run, map_eq_ok.2 ⟨_, ran, rfl⟩]
  have tally : m.tally = ⟨none, none, some (.deposit, "DestinationNetworkInvalid"), 0⟩ := by
    rw [NodeStep.tally, NodeStep.answer, refused]
    rfl
  have tally' : m'.tally = ⟨some .message, none, none, 0⟩ := by
    rw [NodeStep.tally, sent]
    rfl
  have first : Operating .keccak .soleAuthority [m] m.after := .operation (m := m) (.start created)
  have operating : Operating .keccak .soleAuthority [m, m'] m'.after := .operation (m := m') first
  obtain ⟨-, leaves, -, -, -, codes, -, gauge⟩ := counters_agree operating
  have deposits : m'.after.metrics.deposits = Counts.increment .empty .message := by
    have first : m.after.metrics.deposits = m.before.metrics.deposits := by
      rw [m.gains.deposits, tally]
      rfl
    rw [m'.gains.deposits, tally']
    exact congrArg (·.increment .message) (first.trans (congrArg Metrics.deposits metrics))
  have one : m'.after.ledger.tree.count = 1 := by
    rw [← leaves, deposits]
    rfl
  refine ⟨[m, m'], m'.after, operating, one, leaves.trans one, ?_, ?_, gauge.trans one⟩
  · rw [deposits]
    rfl
  · rw [codes, List.countP_cons, List.countP_singleton, tally, tally']
    rfl

end ExitBridge
