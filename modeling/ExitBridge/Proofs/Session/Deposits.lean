/-
  The journal of a ledger rebuilds its exit tree.

  A deposit's leaf, its event and its receipt are made of the same amount, origin and metadata, and
  only deposits touch the tree.

  * `Move.deposit?`, `Step.deposit?`, `Step.receipt?`: the deposits that were made.
  * `Ledger.Takes`: a ledger has taken deposits, numbered from zero.
  * `Depositing`: what tree and journal say of the deposits made so far.
  * `journal_rebuilds_tree`: over all sessions.
-/
import ExitBridge.Execution.Host
import ExitBridge.Ledger.View
import ExitBridge.Proofs.Merkle.Past
import ExitBridge.Proofs.Network.Feed
import ExitBridge.Proofs.Network.Session

namespace ExitBridge

/-! ## Deposits in the journal -/

/-- The deposit that an event tells of. -/
def Event.deposit? : Event → Option BridgeEvent
  | bridge e => some e
  | _ => none

/-- The deposits that a journal tells of, oldest first. -/
def Journal.deposits (j : Journal) : List BridgeEvent := j.events.toList.filterMap Event.deposit?

/-- The hash of the leaf that a bridge event tells of. -/
def BridgeEvent.leafHash (H : NodeHasher) (e : BridgeEvent) : Digest := (e.leaf H).hash H

theorem BridgeEvent.leafHash_eq (H : NodeHasher) (e : BridgeEvent) : e.leafHash H =
    H.hash (e.kind.toByte :: (bigEndian 4 e.originNetwork.toNat ++ e.originAddress.toList ++
      bigEndian 4 e.destinationNetwork.toNat ++ e.destinationAddress.toList ++ e.amount.toBytes ++
      (H.hash e.metadata).toList)) := rfl

/-! ## Moves -/

/-- The deposit whose leaf a move appends. -/
def Move.deposit? : Move → Option BridgeEvent
  | append e => some e
  | _ => none

theorem Move.deposits_events (m : Move) : m.events.filterMap Event.deposit? = m.deposit?.toList := by
  cases m with
  | publish block outcome? => exact filterMap_events_publish (fun _ => rfl) block outcome?
  | fold index root block outcome =>
    exact filterMap_events_fold (fun _ => rfl) index root block outcome
  | toggle emergency => cases emergency <;> rfl
  | _ => rfl

/-- A ledger has taken these deposits: its tree has their leaves, and they are numbered from
    zero. -/
structure Ledger.Takes (H : NodeHasher) (taken : List BridgeEvent) (l : Ledger) : Prop where
  tree : l.tree.Holds H true (taken.map (·.leafHash H))
  depositCount : ∀ (i : Nat) (e : BridgeEvent), taken[i]? = some e → e.depositCount.toNat = i

namespace Ledger

variable {D : Deployment} {l l' : Ledger} {m : Move} {moves : List Move} {taken : List BridgeEvent}

theorem takes_genesis (H : NodeHasher) (config : LedgerConfig) :
    (Deployment.genesis config).Takes H [] := ⟨ExitTree.holds_fresh H true, by simp⟩

theorem Takes.append {H : NodeHasher} {e : BridgeEvent} {tree : ExitTree} (h : l.Takes H taken)
    (count : e.depositCount = UInt32.ofNat l.tree.count)
    (appended : l.tree.append H (e.leafHash H) = .ok (l.tree.count, tree)) (journal : Journal) :
    Takes H (taken ++ [e]) { l with tree := tree, journal := journal } := by
  obtain ⟨tree, -⟩ := ExitTree.holds_of_append h.tree appended
  have room : taken.length < maxLeafCount := Nat.lt_of_succ_le (by simpa using tree.room)
  refine ⟨by simpa using tree, fun i e' he' => ?_⟩
  rcases Nat.lt_or_ge i taken.length with old | new
  · rw [List.getElem?_append_left old] at he'
    exact h.depositCount i e' he'
  · rw [List.getElem?_append_right new, List.getElem?_singleton] at he'
    split at he'
    · obtain rfl := Option.some.inj he'
      rw [count, h.tree.count, List.length_map, UInt32.toNat_ofNat_of_lt' room]
      omega
    · cases he'

theorem Moves.takes (h : l.Moves D m l') (takes : l.Takes D.hasher taken) :
    l'.Takes D.hasher (taken ++ m.deposit?.toList) := by
  cases h with
  | append count appended => exact takes.append count appended _
  | _ => exact (List.append_nil taken).symm ▸ ⟨takes.tree, takes.depositCount⟩

theorem Chain.takes (h : l.Chain D moves l') (takes : l.Takes D.hasher taken) :
    l'.Takes D.hasher (taken ++ moves.filterMap Move.deposit?) := by
  rw [List.filterMap_eq_flatMap_toList]
  induction h generalizing taken with
  | nil => simpa using takes
  | cons first _ ih =>
    rw [List.flatMap_cons, ← List.append_assoc]
    exact ih (first.takes takes)

theorem Chain.deposits (h : l.Chain D moves l') (unbounded : l.journal.retention = none) :
    l'.journal.deposits = l.journal.deposits ++ moves.filterMap Move.deposit? :=
  h.filterMap_events unbounded Move.deposits_events

end Ledger

/-! ## Calls -/

/-- The receipt that an answer holds. -/
def Answer.receipt? : Answer → Option DepositReceipt
  | deposit receipt => some receipt
  | _ => none

section

variable {σ : Type} [ExecutionHost σ] {D : Deployment} {s : BridgeState σ} {host : σ}
  {call : Call} {answer : Answer} {moves : List Move}

/-- A call appends the leaf of the deposit that it makes, which leaves the network, and no other. -/
theorem Call.Makes.deposits (h : call.Makes D s answer moves host) :
    (∃ receipt e, answer.receipt? = some receipt ∧ call.deposit? D s receipt = some e ∧
      e.destinationNetwork ≠ D.config.networkId ∧ moves.filterMap Move.deposit? = [e]) ∨
    answer.receipt? = none ∧ moves.filterMap Move.deposit? = [] := by
  cases h with
  | deposit deposits => exact .inl ⟨_, _, rfl, deposits.event, deposits.leaves, rfl⟩
  | depositPublished deposits => exact .inl ⟨_, _, rfl, deposits.event, deposits.leaves, rfl⟩
  | @claim kind c receipt key host honours =>
    refine .inr ⟨rfl, ?_⟩
    rw [Claim.moves, List.filterMap_append]
    cases receipt.newWrappedToken <;> rfl
  | ingest => exact .inr ⟨rfl, Move.filterMap_lessons (fun _ _ => rfl) _⟩
  | _ => exact .inr ⟨rfl, rfl⟩

/-- The receipt of a deposit tells of the leaf that the event tells of. -/
theorem Advance.receipt_eq {l' : Ledger} (h : Advance D s call answer l') {receipt : DepositReceipt}
    (told : answer.receipt? = some receipt) {e : BridgeEvent}
    (event : call.deposit? D s receipt = some e) :
    receipt.leafHash = e.leafHash D.hasher ∧ receipt.amount = e.amount := by
  cases h with
  | deposit event' deposited =>
    obtain rfl := Option.some.inj told
    obtain rfl := Option.some.inj (event'.symm.trans event)
    exact ⟨deposited.leafHash, deposited.amount⟩
  | _ => cases told

end

/-! ## Steps -/

variable {σ : Type} [ExecutionHost σ] {D : Deployment} {handled : σ → σ → Prop}
  {past : List (Step σ)} {now : BridgeState σ}

/-- The receipt that a depositor got. -/
def Step.receipt? (D : Deployment) (m : Step σ) : Option DepositReceipt :=
  match m.answer D with
  | .ok answer => answer.receipt?
  | .error _ => none

/-- The deposit that was made. -/
def Step.deposit? (D : Deployment) (m : Step σ) : Option BridgeEvent :=
  (m.receipt? D).bind (m.call.deposit? D m.before)

/-- The deposits that were made, oldest first. -/
def takenBy (D : Deployment) (past : List (Step σ)) : List BridgeEvent :=
  past.filterMap (·.deposit? D)

theorem Step.exists_deposits (D : Deployment) (m : Step σ) :
    ∃ moves, m.before.ledger.Chain D moves (m.after D).ledger ∧
      moves.filterMap Move.deposit? = (m.deposit? D).toList ∧
      (∀ e, m.deposit? D = some e → e.destinationNetwork ≠ D.config.networkId) ∧
      (m.receipt? D).isSome = (m.deposit? D).isSome := by
  obtain ⟨moves, chain, step⟩ := m.exists_chain D
  refine ⟨moves, chain, ?_⟩
  rcases step with ⟨answer, answered, makes⟩ | ⟨⟨e, refused⟩, rfl⟩
  · rw [Step.deposit?, Step.receipt?, answered]
    rcases makes.deposits with ⟨receipt, e, told, event, leaves, appended⟩ | ⟨told, appended⟩
    · simp only [told, Option.bind_some, event, appended]
      refine ⟨rfl, ?_, rfl⟩
      rintro _ ⟨⟩
      exact leaves
    · simp only [told, Option.bind_none, appended]
      exact ⟨rfl, nofun, rfl⟩
  · rw [Step.deposit?, Step.receipt?, refused]
    exact ⟨rfl, nofun, rfl⟩

/-- A depositor's receipt tells of the deposit's leaf and amount, and of its number. -/
theorem Step.receipt?_eq (D : Deployment) (m : Step σ) :
    (m.receipt? D).map (fun r => (r.depositCount, r.leafHash, r.amount)) =
      (m.deposit? D).map fun e => (e.depositCount, e.leafHash D.hasher, e.amount) := by
  obtain ⟨-, -, -, -, both⟩ := m.exists_deposits D
  cases hreceipt : m.receipt? D with
  | none =>
    rw [hreceipt, Option.isSome_none, eq_comm, Option.isSome_eq_false_iff,
      Option.isNone_iff_eq_none] at both
    rw [both]
    rfl
  | some receipt =>
    rw [hreceipt, Option.isSome_some, eq_comm, Option.isSome_iff_exists] at both
    obtain ⟨e, he⟩ := both
    rw [Step.deposit?, hreceipt, Option.bind_some] at he
    have told : ∃ answer, m.answer D = .ok answer ∧ answer.receipt? = some receipt := by
      rw [Step.receipt?] at hreceipt
      split at hreceipt
      · exact ⟨_, by assumption, hreceipt⟩
      · cases hreceipt
    obtain ⟨answer, answered, told⟩ := told
    obtain ⟨leafHash, amount⟩ := (Call.run_ok (answer_eq_ok.1 answered)).receipt_eq told he
    rw [Step.deposit?, hreceipt, Option.bind_some, he, Option.map_some, Option.map_some, leafHash,
      amount, Call.depositCount_of_deposit? he]

/-! ## Sessions -/

/-- The ledger has taken the deposits made so far, each of which leaves the network, and a journal
    that keeps all events tells of them. -/
structure Depositing (D : Deployment) (past : List (Step σ)) (l : Ledger) : Prop where
  takes : l.Takes D.hasher (takenBy D past)
  told : l.journal.retention = none → l.journal.deposits = takenBy D past
  leaves : ∀ e ∈ takenBy D past, e.destinationNetwork ≠ D.config.networkId

theorem Step.depositing {m : Step σ} (h : Depositing D past m.before.ledger) :
    Depositing D (past ++ [m]) (m.after D).ledger := by
  obtain ⟨moves, chain, appended, leaves, -⟩ := m.exists_deposits D
  have taken : takenBy D (past ++ [m]) = takenBy D past ++ moves.filterMap Move.deposit? := by
    rw [takenBy, List.filterMap_append, appended]
    cases h : m.deposit? D <;> simp [h, takenBy]
  refine ⟨taken ▸ chain.takes h.takes, fun unbounded => ?_, fun e he => ?_⟩
  · have before := chain.retention.symm.trans unbounded
    rw [chain.deposits before, h.told before, taken]
  · rw [taken, appended, List.mem_append, Option.mem_toList] at he
    exact he.elim (h.leaves e) (leaves e)

theorem Session.depositing (session : Session D handled past now) :
    Depositing D past now.ledger := by
  induction session with
  | start created =>
    rw [genesis_of_create created]
    exact ⟨Ledger.takes_genesis _ _, fun _ => rfl, by simp [takenBy]⟩
  | call _ ih => exact Step.depositing ih
  | host _ _ ih => exact ih

/-! ## Rebuilding the tree -/

/-- **The journal rebuilds the exit tree.** At any time of a session whose journal keeps all events,
    the journal tells of as many deposits as the tree has leaves, numbered from zero, each for
    another network. The tree of the leaves that the first of them tell of has the root that the
    ledger says it had then; and each depositor's receipt has the number, the leaf hash and the
    amount that the event tells of. -/
theorem journal_rebuilds_tree (session : Session D handled past now)
    (unbounded : D.config.journalRetention = none) :
    let leafOf (e : BridgeEvent) := D.hasher.hash (e.kind.toByte ::
      (bigEndian 4 e.originNetwork.toNat ++ e.originAddress.toList ++
        bigEndian 4 e.destinationNetwork.toNat ++ e.destinationAddress.toList ++
        e.amount.toBytes ++ (D.hasher.hash e.metadata).toList))
    let deposits := now.ledger.journal.deposits
    deposits.length = now.ledger.tree.count ∧
    (∀ (i : Nat) (e : BridgeEvent), deposits[i]? = some e →
      e.depositCount.toNat = i ∧ e.destinationNetwork ≠ D.config.networkId) ∧
    (∀ count ≤ deposits.length, ∃ t,
      ExitTree.ofLeaves D.hasher ((deposits.take count).map leafOf) = .ok t ∧
        now.ledger.rootAt D count = .ok (t.root D.hasher)) ∧
    (past.filterMap (·.receipt? D)).map (fun r => (r.depositCount, r.leafHash, r.amount)) =
      deposits.map fun e => (e.depositCount, leafOf e, e.amount) := by
  intro leafOf deposits
  have leaves : leafOf = (·.leafHash D.hasher) := funext fun e => (e.leafHash_eq _).symm
  rw [leaves]
  have depositing := session.depositing
  have told : deposits = takenBy D past := depositing.told (session.retention_journal unbounded)
  obtain ⟨tree, depositCount⟩ := depositing.takes
  rw [← told] at tree depositCount
  refine ⟨by simpa using tree.count.symm, fun i e he => ⟨depositCount i e he, ?_⟩,
    fun count hcount => ?_, ?_⟩
  · exact depositing.leaves e (told ▸ List.mem_of_getElem? he)
  · have within : count ≤ (deposits.map (·.leafHash D.hasher)).length := by simpa using hcount
    have room : ((deposits.take count).map (·.leafHash D.hasher)).length ≤ maxLeafCount := by
      rw [List.map_take, List.length_take_of_le within]
      exact within.trans tree.room
    obtain ⟨t, built, holds⟩ := ExitTree.ofLeaves_of_le D.hasher room
    refine ⟨t, built, ?_⟩
    rw [Ledger.rootAt, ExitTree.rootAt_of_holds tree within, ExitTree.root_of_holds holds,
      List.map_take]
  · rw [told, takenBy, List.map_filterMap, List.map_filterMap]
    exact List.filterMap_congr fun m _ => m.receipt?_eq D

/-- Network 1 tells of its first message, whose leaf gives the root that the tree had after it. -/
theorem journal_rebuilds_tree_first : ∃ (D : Deployment) (past : List (Step Host))
    (now : BridgeState Host) (e : BridgeEvent) (t : ExitTree),
    Session D (fun _ _ => True) past now ∧ D.config.journalRetention = none ∧
      now.ledger.journal.deposits = [e] ∧ e.depositCount.toNat = 0 ∧
      ExitTree.ofLeaves D.hasher [e.leafHash D.hasher] = .ok t ∧
      now.ledger.rootAt D 1 = .ok (t.root D.hasher) := by
  obtain ⟨host, session⟩ := (Run.first .keccak Host.accepting).session (n := 1) (if_neg nofun)
  obtain ⟨length, each, rebuilt, -⟩ := journal_rebuilds_tree session rfl
  obtain ⟨e, one⟩ := List.length_eq_one_iff.1 length
  obtain ⟨t, built, root⟩ := rebuilt 1 (Nat.le_of_eq length.symm)
  rw [one] at built
  exact ⟨_, _, _, e, t, session, rfl, one, (each 0 e (by rw [one]; rfl)).1, built, root⟩

end ExitBridge
