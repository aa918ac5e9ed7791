/-
  Calls as chains of moves.

  A call that succeeds changes its ledger by one move or by several, one after another: a leaf is
  appended, the tree's root published, a claim marked, and so on. A move says all that changes, and
  what the journal tells of it.

  * `Move`, `Move.events`, `Ledger.Moves`, `Ledger.Chain`.
  * `Call.Makes`: the moves that a call makes with an answer, and the host afterwards.
  * `Call.makes_of_ok`: a call that succeeds makes moves, and nothing else happens.
-/
import Mathlib.Data.List.Basic
import ExitBridge.Proofs.Ledger.Call

namespace ExitBridge

open LedgerM

/-! ## Moves -/

/-- Adds events, oldest first. -/
def Journal.pushAll (j : Journal) (events : List Event) : Journal := events.foldl push j

/-- A change that is made to a ledger as a whole. -/
inductive Move where
  /-- A deposit's leaf is appended. -/
  | append (e : BridgeEvent)
  /-- The store takes the tree's root; the authority's outcome. -/
  | publish (block : BlockContext) (outcome? : Option PublishOutcome)
  /-- The authority folds in a rollup's exit root. -/
  | fold (index : UInt32) (localExitRoot : Digest) (block : BlockContext) (outcome : PublishOutcome)
  /-- A replica learns a global exit root. -/
  | learn (roots : GlobalExitRoot) (timestamp : UInt64)
  /-- A new wrapped token is registered. -/
  | register (e : NewWrappedToken)
  /-- A claim is marked. -/
  | mark (key : ScopeKey) (e : ClaimEvent)
  /-- The emergency state begins or ends. -/
  | toggle (emergency : Bool)

/-- What the journal tells of a move. -/
def Move.events : Move → List Event
  | append e => [.bridge e]
  | publish block outcome? => (outcome?.bind (·.event? block)).toList
  | fold _ _ block outcome => (outcome.event? block).toList
  | learn _ _ => []
  | register e => [.newWrappedToken e]
  | mark _ e => [.claim e]
  | toggle true => [.emergencyStateActivated]
  | toggle false => [.emergencyStateDeactivated]

/-- The ledger after a move. -/
inductive Ledger.Moves (D : Deployment) (l : Ledger) : Move → Ledger → Prop
  | append {e : BridgeEvent} {tree : ExitTree}
      (count : e.depositCount = UInt32.ofNat l.tree.count)
      (appended : l.tree.append D.hasher ((e.leaf D.hasher).hash D.hasher) =
        .ok (l.tree.count, tree)) :
      Moves D l (.append e)
        { l with tree := tree, journal := l.journal.pushAll (Move.append e).events }
  | publish {block : BlockContext} {outcome? : Option PublishOutcome} {roots : RootStore}
      (recorded : l.roots.recordLocal D.hasher (l.tree.root D.hasher) block =
        .ok (outcome?, roots)) :
      Moves D l (.publish block outcome?)
        { l with
          roots := roots
          lastUpdatedCount := l.tree.count
          journal := l.journal.pushAll (Move.publish block outcome?).events }
  | fold {a a' : RootAuthority} {index : UInt32} {root : Digest} {block : BlockContext}
      {outcome : PublishOutcome} (authority : l.roots = .authority a)
      (updated : a.updateRollup D.hasher index root block = .ok (outcome, a')) :
      Moves D l (.fold index root block outcome)
        { l with
          roots := .authority a'
          journal := l.journal.pushAll (Move.fold index root block outcome).events }
  | learn {r : RootReplica} {roots : GlobalExitRoot} {timestamp : UInt64}
      (replica : l.roots = .replica r) :
      Moves D l (.learn roots timestamp)
        { l with roots := .replica (r.learn (roots.hash D.hasher) timestamp).2 }
  | register {e : NewWrappedToken} {wrapped : WrappedTokens}
      (registered : l.wrapped.register D.hasher ⟨e.originNetwork, e.originTokenAddress⟩
        e.wrappedTokenAddress = .ok wrapped) :
      Moves D l (.register e)
        { l with wrapped := wrapped, journal := l.journal.pushAll (Move.register e).events }
  | mark {key : ScopeKey} {e : ClaimEvent} {claimed : ReplayGuard}
      (marked : l.claimed.mark key = .ok claimed) :
      Moves D l (.mark key e)
        { l with claimed := claimed, journal := l.journal.pushAll (Move.mark key e).events }
  | toggle {emergency : Bool} (was : l.emergency = !emergency) :
      Moves D l (.toggle emergency)
        { l with
          emergency := emergency
          journal := l.journal.pushAll (Move.toggle emergency).events }

/-- The ledger after moves, one after another. -/
inductive Ledger.Chain (D : Deployment) : Ledger → List Move → Ledger → Prop
  | nil {l : Ledger} : Chain D l [] l
  | cons {l l₁ l' : Ledger} {m : Move} {moves : List Move} (first : l.Moves D m l₁)
      (rest : Chain D l₁ moves l') : Chain D l (m :: moves) l'

namespace Ledger

variable {D : Deployment} {l l' : Ledger} {m : Move} {moves : List Move}

theorem Moves.chain (h : l.Moves D m l') : l.Chain D [m] l' := .cons h .nil

theorem Moves.journal (h : l.Moves D m l') : l'.journal = l.journal.pushAll m.events := by
  cases h <;> rfl

/-- The journal tells of each move in turn. -/
theorem Chain.journal (h : l.Chain D moves l') :
    l'.journal = l.journal.pushAll (moves.flatMap Move.events) := by
  induction h with
  | nil => rfl
  | cons first _ ih =>
    rw [ih, first.journal, List.flatMap_cons, Journal.pushAll, Journal.pushAll, Journal.pushAll,
      List.foldl_append]

/-- What every move keeps is kept by moves one after another. -/
theorem Chain.preserves {P : Ledger → Prop} (h : l.Chain D moves l')
    (step : ∀ {l l' m}, m ∈ moves → Moves D l m l' → P l → P l') (start : P l) : P l' := by
  induction h with
  | nil => exact start
  | cons first _ ih =>
    exact ih (fun hmem => step (List.mem_cons_of_mem _ hmem)) (step List.mem_cons_self first start)

/-- What a move can add to, and no move takes from, is made up of what was there before and what the
    moves have added. -/
theorem Chain.collects {P : Ledger → Prop} {Q : Move → Prop} (h : l.Chain D moves l')
    (step : ∀ {l m l'}, Moves D l m l' → (P l' ↔ P l ∨ Q m)) :
    P l' ↔ P l ∨ ∃ m ∈ moves, Q m := by
  induction h with
  | nil => simp
  | cons first _ ih => simp only [ih, step first, List.mem_cons, exists_eq_or_imp, or_assoc]

end Ledger

/-! ## An unbounded journal -/

namespace Journal

variable {j : Journal} {events : List Event}

@[simp] theorem pushAll_nil (j : Journal) : j.pushAll [] = j := rfl

@[simp] theorem retention_push (j : Journal) (e : Event) : (j.push e).retention = j.retention := by
  rw [push]
  split
  · rfl
  · rfl

@[simp] theorem retention_pushAll (j : Journal) (events : List Event) :
    (j.pushAll events).retention = j.retention := by
  induction events generalizing j with
  | nil => rfl
  | cons e events ih => exact (ih _).trans (retention_push j e)

theorem toList_pushAll (unbounded : j.retention = none) :
    (j.pushAll events).events.toList = j.events.toList ++ events := by
  induction events generalizing j with
  | nil => simp
  | cons e events ih =>
    have pushed : (j.push e).events = j.events.push e := by
      rw [push, unbounded]
    refine (ih ((retention_push j e).trans unbounded)).trans ?_
    simp [pushed]

end Journal

theorem Ledger.Chain.retention {D : Deployment} {l l' : Ledger} {moves : List Move}
    (h : l.Chain D moves l') : l'.journal.retention = l.journal.retention := by
  rw [h.journal, Journal.retention_pushAll]

namespace Move

variable {α : Type} {told : Event → Option α}

theorem filterMap_event? (silent : ∀ e, told (.updateL1InfoTree e) = none) (o : PublishOutcome)
    (block : BlockContext) : (o.event? block).toList.filterMap told = [] := by
  rw [PublishOutcome.event?]
  cases o.l1Info with
  | none => rfl
  | some update => exact List.filterMap_cons_none (silent _)

theorem filterMap_events_publish (silent : ∀ e, told (.updateL1InfoTree e) = none)
    (block : BlockContext) (outcome? : Option PublishOutcome) :
    (publish block outcome?).events.filterMap told = [] := by
  cases outcome? with
  | none => rfl
  | some outcome => exact filterMap_event? silent outcome block

theorem filterMap_events_fold (silent : ∀ e, told (.updateL1InfoTree e) = none) (index : UInt32)
    (root : Digest) (block : BlockContext) (outcome : PublishOutcome) :
    (fold index root block outcome).events.filterMap told = [] :=
  filterMap_event? silent outcome block

end Move

/-- What a journal that keeps all events tells of some kind, moves add to, each its own. -/
theorem Ledger.Chain.filterMap_events {α : Type} {told : Event → Option α} {tells : Move → Option α}
    {D : Deployment} {l l' : Ledger} {moves : List Move} (h : l.Chain D moves l')
    (unbounded : l.journal.retention = none)
    (each : ∀ m : Move, m.events.filterMap told = (tells m).toList) :
    l'.journal.events.toList.filterMap told =
      l.journal.events.toList.filterMap told ++ moves.filterMap tells := by
  rw [h.journal, Journal.toList_pushAll unbounded, List.filterMap_append, List.filterMap_flatMap,
    List.filterMap_eq_flatMap_toList tells]
  simp only [each]

/-! ## What calls do -/

/-- The event of a claim that is honoured. -/
def Claim.event (c : Claim) : ClaimEvent :=
  { globalIndex := c.globalIndex.pack
    originNetwork := c.originNetwork
    originAddress := c.originAddress
    destinationAddress := c.destinationAddress
    amount := c.amount }

/-- The event of the wrapped token that a claim creates. -/
def Claim.newToken (c : Claim) (token : Address) : NewWrappedToken :=
  { originNetwork := c.originNetwork
    originTokenAddress := c.originAddress
    wrappedTokenAddress := token
    metadata := c.metadata }

/-- The moves of a claim that is honoured. -/
def Claim.moves (c : Claim) (receipt : ClaimReceipt) (key : ScopeKey) : List Move :=
  (receipt.newWrappedToken.map fun token => .register (c.newToken token)).toList ++
    [.mark key c.event]

/-- What a replica learns from a list of events. -/
def Move.lessons : List Event → List Move
  | [] => []
  | .updateL1InfoTree e :: rest =>
    .learn ⟨e.mainnetExitRoot, e.rollupExitRoot⟩ e.timestamp :: lessons rest
  | _ :: rest => lessons rest

theorem Move.exists_of_mem_lessons {events : List Event} {m : Move}
    (h : m ∈ Move.lessons events) : ∃ roots timestamp, m = .learn roots timestamp := by
  fun_induction Move.lessons events with
  | case1 => cases h
  | case2 e rest ih =>
    rcases List.mem_cons.1 h with rfl | h
    · exact ⟨_, _, rfl⟩
    · exact ih h
  | case3 event rest _ ih => exact ih h

theorem Move.filterMap_lessons {α : Type} {f : Move → Option α}
    (h : ∀ roots timestamp, f (.learn roots timestamp) = none) (events : List Event) :
    (Move.lessons events).filterMap f = [] := by
  rw [List.filterMap_eq_nil_iff]
  intro m hm
  obtain ⟨roots, timestamp, rfl⟩ := Move.exists_of_mem_lessons hm
  exact h roots timestamp

variable {σ : Type}

/-- The moves that a call makes with an answer, and the host afterwards. -/
inductive Call.Makes [ExecutionHost σ] (D : Deployment) (s : BridgeState σ) :
    Call → Answer → List Move → σ → Prop
  | deposit {call : Call} {receipt : DepositReceipt} {e : BridgeEvent} {host : σ}
      (deposits : call.Deposits D s receipt e host) (quiet : call.publishes = false)
      (told : receipt.globalExitRoot = none) :
      Makes D s call (.deposit receipt) [.append e] host
  | depositPublished {call : Call} {receipt : DepositReceipt} {e : BridgeEvent} {host : σ}
      {block : BlockContext} {outcome? : Option PublishOutcome}
      (deposits : call.Deposits D s receipt e host) (loud : call.publishes = true)
      (dated : call.block? = some block)
      (told : receipt.globalExitRoot = outcome?.map (·.globalExitRoot)) :
      Makes D s call (.deposit receipt) [.append e, .publish block outcome?] host
  | claim {kind : LeafKind} {c : Claim} {receipt : ClaimReceipt} {key : ScopeKey} {host : σ}
      (honours : c.Honours D s kind receipt key host) :
      Makes D s (.claim kind c) (.claim receipt) (c.moves receipt key) host
  | publish {block : BlockContext} {outcome? : Option PublishOutcome} :
      Makes D s (.updateGlobalExitRoot block) (.published (outcome?.map (·.globalExitRoot)))
        [.publish block outcome?] s.host
  | fold {index : UInt32} {root : Digest} {block : BlockContext} {outcome : PublishOutcome} :
      Makes D s (.updateRollupExitRoot index root block) (.published (some outcome.globalExitRoot))
        [.fold index root block outcome] s.host
  | importRoot {roots : GlobalExitRoot} {timestamp : UInt64} {count : Nat} :
      Makes D s (.importGlobalExitRoot roots timestamp) (.learned count) [.learn roots timestamp]
        s.host
  | ingest {batch : EventBatch} {count : Nat} :
      Makes D s (.ingestPeerEvents batch) (.learned count)
        (Move.lessons (batch.entries.map (·.event))) s.host
  | activate : Makes D s .activateEmergencyState .done [.toggle true] s.host
  | deactivate : Makes D s .deactivateEmergencyState .done [.toggle false] s.host

/-! ## Each operation -/

variable {D : Deployment} {s s' : BridgeState σ} {block : BlockContext}

theorem announceOutcome_eq (o : PublishOutcome) (block : BlockContext) (s : BridgeState σ) :
    announceOutcome o block s = .ok () { s with
      ledger := { s.ledger with journal := s.ledger.journal.pushAll (o.event? block).toList } } := by
  rw [announceOutcome]
  cases o.event? block <;> rfl

theorem publishLocalRoot_moves {told : Option Digest}
    (h : publishLocalRoot D block s = .ok told s') :
    ∃ outcome?, s.ledger.Moves D (.publish block outcome?) s'.ledger ∧ s'.host = s.host ∧
      told = outcome?.map (·.globalExitRoot) := by
  simp only [publishLocalRoot, bind_eq_ok, ledger_eq_ok, ofResult_eq_ok, change_eq_ok] at h
  obtain ⟨_, _, ⟨rfl, rfl⟩, ⟨outcome?, roots⟩, _, ⟨recorded, rfl⟩, _, _, rfl, h⟩ := h
  cases outcome? with
  | none =>
    obtain ⟨rfl, rfl⟩ := pure_eq_ok.1 h
    exact ⟨none, .publish recorded, rfl, rfl⟩
  | some outcome =>
    simp only [bind_eq_ok, announceOutcome_eq, pure_eq_ok, EStateM.Result.ok.injEq] at h
    obtain ⟨_, _, ⟨-, rfl⟩, rfl, rfl⟩ := h
    exact ⟨some outcome, .publish recorded, rfl, rfl⟩

/-- Committing a deposit appends its leaf, and publishes the tree's root if that is asked for. -/
theorem commitDeposit_chain {e : BridgeEvent} {publishes : Bool} {receipt : DepositReceipt}
    (h : commitDeposit D (e.leaf D.hasher) e.metadata publishes block s = .ok receipt s')
    (count : e.depositCount = receipt.depositCount) : s'.host = s.host ∧
      (publishes = false ∧ receipt.globalExitRoot = none ∧
          s.ledger.Chain D [.append e] s'.ledger ∨
        ∃ outcome?, publishes = true ∧
          receipt.globalExitRoot = outcome?.map (·.globalExitRoot) ∧
          s.ledger.Chain D [.append e, .publish block outcome?] s'.ledger) := by
  have depositCount := (commitDeposit_eq_ok h).depositCount
  simp only [commitDeposit, bind_eq_ok, ledger_eq_ok, ofResult_eq_ok, change_eq_ok,
    emit_eq_ok] at h
  obtain ⟨_, _, ⟨rfl, rfl⟩, ⟨index, tree⟩, _, ⟨appended, rfl⟩, _, _, rfl, _, _, rfl, h⟩ := h
  obtain rfl : index = s.ledger.tree.count := ExitTree.index_of_append appended
  have moved := Ledger.Moves.append (count.trans depositCount) appended
  have event : (⟨e.kind, e.originNetwork, e.originAddress, e.destinationNetwork,
      e.destinationAddress, e.amount, e.metadata, UInt32.ofNat s.ledger.tree.count⟩ :
      BridgeEvent) = e := by
    rw [← count.trans depositCount]
  simp only [BridgeEvent.leaf, event] at h
  cases publishes with
  | false =>
    obtain ⟨_, _, hpure, h⟩ := bind_eq_ok.1 h
    obtain ⟨rfl, rfl⟩ := pure_eq_ok.1 hpure
    obtain ⟨rfl, rfl⟩ := pure_eq_ok.1 h
    exact ⟨rfl, .inl ⟨rfl, rfl, moved.chain⟩⟩
  | true =>
    obtain ⟨told, _, hpublish, h⟩ := bind_eq_ok.1 h
    obtain ⟨rfl, rfl⟩ := pure_eq_ok.1 h
    obtain ⟨outcome?, published, host, rfl⟩ := publishLocalRoot_moves hpublish
    exact ⟨host, .inr ⟨outcome?, rfl, rfl, .cons moved published.chain⟩⟩

/-- Finishing a claim registers its new token, if there is one, and marks it. -/
theorem Claim.Finishes.chain {c : Claim} {receipt : ClaimReceipt} {key : ScopeKey}
    (h : c.Finishes D receipt key s s') :
    s'.host = s.host ∧ s.ledger.Chain D (c.moves receipt key) s'.ledger := by
  obtain ⟨s₁, registered, hfinish⟩ := h
  simp only [finishClaim, bind_eq_ok, ledger_eq_ok, ofResult_eq_ok, change_eq_ok,
    emit_eq_ok] at hfinish
  obtain ⟨_, _, ⟨rfl, rfl⟩, claimed, _, ⟨hmark, rfl⟩, _, _, rfl, rfl⟩ := hfinish
  have marked := Ledger.Moves.mark (D := D) (e := c.event) hmark
  cases htoken : receipt.newWrappedToken with
  | none =>
    rw [htoken] at registered
    obtain rfl := registered
    rw [Claim.moves, htoken]
    exact ⟨rfl, marked.chain⟩
  | some token =>
    simp only [htoken, registerWrapped, bind_eq_ok, ledger_eq_ok, ofResult_eq_ok, change_eq_ok,
      emit_eq_ok] at registered
    obtain ⟨_, _, ⟨rfl, rfl⟩, wrapped, _, ⟨hregister, rfl⟩, _, _, rfl, rfl⟩ := registered
    rw [Claim.moves, htoken]
    exact ⟨rfl, .cons (.register (e := c.newToken token) hregister) marked.chain⟩

theorem updateRollupExitRoot_moves {index : UInt32} {root told : Digest}
    (h : updateRollupExitRoot D index root block s = .ok told s') :
    ∃ outcome, s.ledger.Moves D (.fold index root block outcome) s'.ledger ∧ s'.host = s.host ∧
      told = outcome.globalExitRoot := by
  simp only [updateRollupExitRoot, bind_eq_ok, ledger_eq_ok] at h
  obtain ⟨_, _, ⟨rfl, rfl⟩, h⟩ := h
  cases hroots : s.ledger.roots with
  | replica r =>
    rw [hroots] at h
    exact (throw_eq_ok.1 h).elim
  | authority a =>
    simp only [hroots, bind_eq_ok, ofResult_eq_ok, change_eq_ok, announceOutcome_eq, pure_eq_ok,
      EStateM.Result.ok.injEq] at h
    obtain ⟨⟨outcome, a'⟩, _, ⟨updated, rfl⟩, _, _, rfl, _, _, ⟨-, rfl⟩, rfl, rfl⟩ := h
    exact ⟨outcome, .fold hroots updated, rfl, rfl⟩

theorem importGlobalExitRoot_moves {roots : GlobalExitRoot} {timestamp : UInt64} {isNew : Bool}
    (h : importGlobalExitRoot D roots timestamp s = .ok isNew s') :
    s.ledger.Moves D (.learn roots timestamp) s'.ledger ∧ s'.host = s.host := by
  simp only [importGlobalExitRoot, bind_eq_ok, ledger_eq_ok] at h
  obtain ⟨_, _, ⟨rfl, rfl⟩, h⟩ := h
  cases hroots : s.ledger.roots with
  | authority a =>
    rw [hroots] at h
    exact (throw_eq_ok.1 h).elim
  | replica r =>
    simp only [hroots, bind_eq_ok, change_eq_ok, pure_eq_ok] at h
    obtain ⟨_, _, rfl, rfl, rfl⟩ := h
    exact ⟨.learn hroots, rfl⟩

theorem ingestEvents_chain {events : List Event} {count : Nat}
    (h : ingestEvents D events s = .ok count s') :
    s.ledger.Chain D (Move.lessons events) s'.ledger ∧ s'.host = s.host := by
  fun_induction ingestEvents D events generalizing s count with
  | case1 =>
    obtain ⟨-, rfl⟩ := pure_eq_ok.1 h
    exact ⟨.nil, rfl⟩
  | case2 e rest ih =>
    simp only [bind_eq_ok, pure_eq_ok] at h
    obtain ⟨isNew, s₁, himport, more, _, hrest, -, rfl⟩ := h
    obtain ⟨moved, host⟩ := importGlobalExitRoot_moves himport
    obtain ⟨chain, host'⟩ := ih hrest
    exact ⟨.cons moved chain, host'.trans host⟩
  | case3 event rest other ih =>
    obtain ⟨chain, host⟩ := ih h
    refine ⟨?_, host⟩
    rwa [Move.lessons]
    exact other

theorem activateEmergencyState_moves {u : Unit} (h : activateEmergencyState s = .ok u s') :
    s.ledger.Moves D (.toggle true) s'.ledger ∧ s'.host = s.host := by
  simp only [activateEmergencyState, bind_eq_ok, ledger_eq_ok, require_eq_ok, change_eq_ok,
    emit_eq_ok] at h
  obtain ⟨_, _, ⟨rfl, rfl⟩, _, _, ⟨was, rfl⟩, _, _, rfl, rfl⟩ := h
  exact ⟨.toggle (by simpa using was), rfl⟩

theorem deactivateEmergencyState_moves {u : Unit} (h : deactivateEmergencyState s = .ok u s') :
    s.ledger.Moves D (.toggle false) s'.ledger ∧ s'.host = s.host := by
  simp only [deactivateEmergencyState, bind_eq_ok, ledger_eq_ok, require_eq_ok, change_eq_ok,
    emit_eq_ok] at h
  obtain ⟨_, _, ⟨rfl, rfl⟩, _, _, ⟨was, rfl⟩, _, _, rfl, rfl⟩ := h
  exact ⟨.toggle (by simpa using was), rfl⟩

/-! ## All calls -/

variable [ExecutionHost σ]

theorem Call.Deposits.makes {call : Call} {receipt : DepositReceipt} {e : BridgeEvent} {host : σ}
    (deposits : call.Deposits D s receipt e host) (dated : call.block? = some block)
    (committed : commitDeposit D (e.leaf D.hasher) e.metadata call.publishes block
      ⟨s.ledger, host⟩ = .ok receipt s') :
    ∃ moves, call.Makes D s (.deposit receipt) moves s'.host ∧
      s.ledger.Chain D moves s'.ledger := by
  obtain ⟨rfl, ⟨quiet, told, chain⟩ | ⟨outcome?, loud, told, chain⟩⟩ :=
    commitDeposit_chain committed (depositCount_of_deposit? deposits.event)
  · exact ⟨_, .deposit deposits quiet told, chain⟩
  · exact ⟨_, .depositPublished deposits loud dated told, chain⟩

/-- **A call that succeeds** makes its moves, and nothing else happens to the ledger. -/
theorem Call.makes_of_ok {call : Call} {answer : Answer} (h : call.run D s = .ok answer s') :
    ∃ moves, call.Makes D s answer moves s'.host ∧ s.ledger.Chain D moves s'.ledger := by
  cases call with
  | bridgeAsset sender d block =>
    obtain ⟨receipt, hrun, rfl⟩ := map_eq_ok.1 h
    obtain ⟨e, host, deposits, committed⟩ := bridgeAsset_eq_ok hrun
    exact deposits.makes rfl committed
  | bridgeMessage sender d block =>
    obtain ⟨receipt, hrun, rfl⟩ := map_eq_ok.1 h
    obtain ⟨e, host, deposits, committed⟩ := bridgeMessage_eq_ok hrun
    exact deposits.makes rfl committed
  | bridgeMessageWeth sender d amount block =>
    obtain ⟨receipt, hrun, rfl⟩ := map_eq_ok.1 h
    obtain ⟨e, host, deposits, committed⟩ := bridgeMessageWeth_eq_ok hrun
    exact deposits.makes rfl committed
  | claim kind c =>
    cases kind with
    | asset =>
      obtain ⟨receipt, hrun, rfl⟩ := map_eq_ok.1 h
      obtain ⟨key, host, honours, finishes⟩ := claimAsset_eq_ok hrun
      obtain ⟨rfl, chain⟩ := finishes.chain
      exact ⟨_, .claim honours, chain⟩
    | message =>
      obtain ⟨receipt, hrun, rfl⟩ := map_eq_ok.1 h
      obtain ⟨key, host, honours, finishes⟩ := claimMessage_eq_ok hrun
      obtain ⟨rfl, chain⟩ := finishes.chain
      exact ⟨_, .claim honours, chain⟩
  | updateGlobalExitRoot block =>
    obtain ⟨told, hrun, rfl⟩ := map_eq_ok.1 h
    obtain ⟨outcome?, moved, host, rfl⟩ := publishLocalRoot_moves hrun
    exact ⟨_, host ▸ .publish, moved.chain⟩
  | updateRollupExitRoot index root block =>
    obtain ⟨told, hrun, rfl⟩ := map_eq_ok.1 h
    obtain ⟨outcome, moved, host, rfl⟩ := updateRollupExitRoot_moves hrun
    exact ⟨_, host ▸ .fold, moved.chain⟩
  | importGlobalExitRoot roots timestamp =>
    obtain ⟨isNew, hrun, rfl⟩ := map_eq_ok.1 h
    obtain ⟨moved, host⟩ := importGlobalExitRoot_moves hrun
    exact ⟨_, host ▸ .importRoot, moved.chain⟩
  | ingestPeerEvents batch =>
    obtain ⟨count, hrun, rfl⟩ := map_eq_ok.1 h
    obtain ⟨chain, host⟩ := ingestEvents_chain hrun
    exact ⟨_, host ▸ .ingest, chain⟩
  | activateEmergencyState =>
    obtain ⟨_, hrun, rfl⟩ := map_eq_ok.1 h
    obtain ⟨moved, host⟩ := activateEmergencyState_moves hrun
    exact ⟨_, host ▸ .activate, moved.chain⟩
  | deactivateEmergencyState =>
    obtain ⟨_, hrun, rfl⟩ := map_eq_ok.1 h
    obtain ⟨moved, host⟩ := deactivateEmergencyState_moves hrun
    exact ⟨_, host ▸ .deactivate, moved.chain⟩

end ExitBridge
