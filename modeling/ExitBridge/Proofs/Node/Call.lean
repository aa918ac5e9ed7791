/-
  What a node does, as calls to its ledger.

  Around its ledger a node draws blocks, counts, and notes how it went with its peers. None of that
  touches the ledger: an operation of the node makes one call to it or none, and what happens
  between operations changes at most the book of balances.

  * `NodeCall`, `NodeCall.run`: the operations of a node; `NodeCall.call?`: the call that each
    makes.
  * `Node.Acts`: an operation, or what may happen between two.
  * `Node.Acts.exists_chain`, `Node.Acts.session`, `Node.Acts.learned`: what becomes of the ledger.
  * `Node.acts_handle`, `Node.acts_syncRollup`: a request and a round with a rollup are such.
-/
import ExitBridge.Node.PeerSync
import ExitBridge.Node.Server
import ExitBridge.Proofs.Execution.Book
import ExitBridge.Proofs.Session.Lessons

namespace ExitBridge

/-! ## Operations -/

/-- An operation of a node, with a reading of the clock if it draws a block. -/
inductive NodeCall where
  | bridgeAsset (now : UInt64) (sender : Address) (d : AssetDeposit)
  | bridgeMessage (now : UInt64) (sender : Address) (d : MessageDeposit)
  | claim (kind : LeafKind) (c : Claim)
  | updateGlobalExitRoot (now : UInt64) (force : Bool)
  | updateRollupExitRoot (now : UInt64) (index : UInt32) (root : Digest)
  | ingest (batch : EventBatch)
  | setEmergencyState (active : Bool)

namespace NodeCall

/-- The node after an operation. -/
def run (n : Node) : NodeCall → Node
  | bridgeAsset now sender d => (n.bridgeAsset now sender d).2
  | bridgeMessage now sender d => (n.bridgeMessage now sender d).2
  | claim kind c => (n.claim kind c).2
  | updateGlobalExitRoot now force => (n.updateGlobalExitRoot now force).2
  | updateRollupExitRoot now index root => (n.updateRollupExitRoot now index root).2
  | ingest batch => (n.ingest batch).2
  | setEmergencyState active => (n.setEmergencyState active).2

/-- The call that an operation makes to the ledger; without new deposits, nothing is published
    unless it is forced. -/
def call? (n : Node) : NodeCall → Option Call
  | bridgeAsset now sender d => some (.bridgeAsset sender d (n.drawBlock now).1)
  | bridgeMessage now sender d => some (.bridgeMessage sender d (n.drawBlock now).1)
  | claim kind c => some (.claim kind c)
  | updateGlobalExitRoot now force =>
    if !force && n.ledger.tree.count == n.ledger.lastUpdatedCount then none
    else some (.updateGlobalExitRoot (n.drawBlock now).1)
  | updateRollupExitRoot now index root =>
    some (.updateRollupExitRoot index root (n.drawBlock now).1)
  | ingest batch => some (.ingestPeerEvents batch)
  | setEmergencyState active =>
    some (if active then .activateEmergencyState else .deactivateEmergencyState)

/-- Does it learn from a page of events? -/
def ingests : NodeCall → Bool
  | ingest _ => true
  | _ => false

end NodeCall

namespace Node

/-! ## Around the ledger -/

/-- The ledger is as it was. -/
structure Same (n n' : Node) : Prop where
  deployment : n'.deployment = n.deployment
  bridge : n'.bridge = n.bridge

/-- The node has made a call to its ledger. -/
structure Called (call : Call) (n n' : Node) : Prop where
  deployment : n'.deployment = n.deployment
  bridge : n'.bridge = (⟨n.bridge, call⟩ : Step Book).after n.deployment

variable {n n₁ n' : Node} {call : Call}

theorem Same.refl (n : Node) : n.Same n := ⟨rfl, rfl⟩

theorem Same.ledger (same : n.Same n') : n'.ledger = n.ledger :=
  congrArg BridgeState.ledger same.bridge

theorem Called.ledger (called : n.Called call n') :
    n'.ledger = ((⟨n.bridge, call⟩ : Step Book).after n.deployment).ledger :=
  congrArg BridgeState.ledger called.bridge

theorem Called.same (called : n.Called call n₁) (same : n₁.Same n') : n.Called call n' where
  deployment := same.deployment.trans called.deployment
  bridge := same.bridge.trans called.bridge

theorem Same.called (same : n.Same n₁) (called : n₁.Called call n') : n.Called call n' where
  deployment := called.deployment.trans same.deployment
  bridge := by rw [called.bridge, same.bridge, same.deployment]

theorem same_drawBlock (n : Node) (now : UInt64) : n.Same (n.drawBlock now).2 := ⟨rfl, rfl⟩

theorem same_count (n : Node) (f : Metrics → Metrics) : n.Same (n.count f) := ⟨rfl, rfl⟩

theorem same_refreshGauges (n : Node) : n.Same n.refreshGauges := ⟨rfl, rfl⟩

theorem same_countDeposit (n : Node) (kind : LeafKind) (r : Except LedgerError DepositReceipt) :
    n.Same (n.countDeposit kind r) := by
  cases r with
  | ok receipt => exact ⟨rfl, rfl⟩
  | error e => exact ⟨rfl, rfl⟩

theorem same_countPublished (n : Node) (before : Nat) : n.Same (n.countPublished before) := by
  unfold countPublished
  split
  · exact same_count n _
  · exact .refl n

@[simp] theorem syncCursor_countDeposit (n : Node) (kind : LeafKind)
    (r : Except LedgerError DepositReceipt) : (n.countDeposit kind r).syncCursor = n.syncCursor := by
  cases r with
  | ok receipt => rfl
  | error e => rfl

@[simp] theorem syncCursor_countPublished (n : Node) (before : Nat) :
    (n.countPublished before).syncCursor = n.syncCursor := by
  unfold countPublished
  split
  · rfl
  · rfl

/-! ## Calls to the ledger -/

section Perform

variable {α : Type}

@[simp] theorem syncCursor_perform (n : Node) (op : LedgerM Book α) :
    (n.perform op).2.syncCursor = n.syncCursor := by
  unfold perform
  split
  · rfl
  · rfl

theorem called_perform {op : LedgerM Book α} {f : α → Answer}
    (h : call.run n.deployment = f <$> op) : n.Called call (n.perform op).2 := by
  unfold perform
  cases hop : op n.bridge with
  | ok a s =>
    have ran : call.run n.deployment n.bridge = .ok (f a) s :=
      h ▸ LedgerM.map_eq_ok.2 ⟨a, hop, rfl⟩
    refine ⟨rfl, ?_⟩
    rw [Step.after, ran]
  | error e s =>
    have ran : call.run n.deployment n.bridge = .error e s := h ▸ LedgerM.map_eq_error.2 hop
    refine ⟨rfl, ?_⟩
    rw [Step.after, ran]

variable {now : UInt64}

@[simp] theorem syncCursor_deposit (n : Node) (kind : LeafKind)
    (op : BlockContext → LedgerM Book DepositReceipt) :
    (n.deposit now kind op).2.syncCursor = n.syncCursor := by
  unfold deposit
  rw [syncCursor_countDeposit, syncCursor_perform]
  rfl

theorem called_deposit {kind : LeafKind} {op : BlockContext → LedgerM Book DepositReceipt}
    (h : call.run n.deployment = .deposit <$> op (n.drawBlock now).1) :
    n.Called call (n.deposit now kind op).2 := by
  have called := (n.same_drawBlock now).called (called_perform h)
  exact called.same (same_countDeposit _ kind _)

@[simp] theorem syncCursor_publish (n : Node) (op : BlockContext → LedgerM Book α) :
    (n.publish now op).2.syncCursor = n.syncCursor := by
  have performed := (n.drawBlock now).2.syncCursor_perform (op (n.drawBlock now).1)
  unfold publish
  simp only
  split
  · rename_i ok
    rw [ok] at performed
    rw [syncCursor_countPublished]
    exact performed
  · rename_i refused
    rw [refused] at performed
    exact performed

theorem called_publish {op : BlockContext → LedgerM Book α} {f : α → Answer}
    (h : call.run n.deployment = f <$> op (n.drawBlock now).1) :
    n.Called call (n.publish now op).2 := by
  have called := (n.same_drawBlock now).called (called_perform h)
  unfold publish
  simp only
  split
  · rename_i ok
    rw [ok] at called
    exact (called.same (same_refreshGauges _)).same (same_countPublished _ n.knownCount)
  · rename_i refused
    rw [refused] at called
    exact called

end Perform

@[simp] theorem syncCursor_claim (n : Node) (kind : LeafKind) (c : Claim) :
    (n.claim kind c).2.syncCursor = n.syncCursor := by
  unfold claim
  simp only
  split
  · exact syncCursor_perform n _
  · exact syncCursor_perform n _

theorem called_claim (n : Node) (kind : LeafKind) (c : Claim) :
    n.Called (.claim kind c) (n.claim kind c).2 := by
  cases kind with
  | asset =>
    have called : n.Called (.claim .asset c) (n.perform (claimAsset n.deployment c)).2 :=
      called_perform rfl
    unfold claim
    simp only
    split
    · exact called.same ⟨rfl, rfl⟩
    · exact called.same ⟨rfl, rfl⟩
  | message =>
    have called : n.Called (.claim .message c) (n.perform (claimMessage n.deployment c)).2 :=
      called_perform rfl
    unfold claim
    simp only
    split
    · exact called.same ⟨rfl, rfl⟩
    · exact called.same ⟨rfl, rfl⟩

@[simp] theorem syncCursor_setEmergencyState (n : Node) (active : Bool) :
    (n.setEmergencyState active).2.syncCursor = n.syncCursor := by
  have performed := n.syncCursor_perform
    (if active then activateEmergencyState else deactivateEmergencyState)
  unfold setEmergencyState
  split
  · rename_i ok
    rw [ok] at performed
    exact performed
  · rename_i refused
    rw [refused] at performed
    exact performed

theorem called_setEmergencyState (n : Node) (active : Bool) :
    n.Called (if active then .activateEmergencyState else .deactivateEmergencyState)
      (n.setEmergencyState active).2 := by
  have called : n.Called (if active then .activateEmergencyState else .deactivateEmergencyState)
      (n.perform (if active then activateEmergencyState else deactivateEmergencyState)).2 := by
    cases active with
    | false => exact called_perform rfl
    | true => exact called_perform rfl
  rw [setEmergencyState]
  generalize n.perform (if active then activateEmergencyState else deactivateEmergencyState) = r
    at called ⊢
  obtain ⟨ok | refused, n₁⟩ := r
  · exact called
  · exact called.same (same_refreshGauges n₁)

/-! ## Pages of events -/

/-- Learning from a page is a call to the ledger; if it succeeds, the node goes on behind the
    page. -/
theorem called_ingest (n : Node) (batch : EventBatch) :
    n.Called (.ingestPeerEvents batch) (n.ingest batch).2 := by
  have called : n.Called (.ingestPeerEvents batch)
      (n.perform (ExitBridge.ingestPeerEvents n.deployment batch)).2 := called_perform rfl
  unfold ingest
  split
  · rename_i ok
    rw [ok] at called
    exact ⟨called.deployment, called.bridge⟩
  · rename_i refused
    rw [refused] at called
    exact called

end Node

namespace NodeCall

variable {n : Node} {c : NodeCall} {call : Call}

theorem called (h : c.call? n = some call) : n.Called call (c.run n) := by
  cases c with
  | bridgeAsset now sender d =>
    obtain rfl := Option.some.inj h
    exact Node.called_deposit rfl
  | bridgeMessage now sender d =>
    obtain rfl := Option.some.inj h
    exact Node.called_deposit rfl
  | claim kind c =>
    obtain rfl := Option.some.inj h
    exact n.called_claim kind c
  | updateGlobalExitRoot now force =>
    rw [call?] at h
    rw [run, Node.updateGlobalExitRoot]
    split at h
    · cases h
    · rename_i due
      obtain rfl := Option.some.inj h
      rw [if_neg due]
      exact Node.called_publish rfl
  | updateRollupExitRoot now index root =>
    obtain rfl := Option.some.inj h
    exact Node.called_publish rfl
  | ingest batch =>
    obtain rfl := Option.some.inj h
    exact n.called_ingest batch
  | setEmergencyState active =>
    obtain rfl := Option.some.inj h
    exact n.called_setEmergencyState active

theorem run_of_call?_eq_none (h : c.call? n = none) : c.run n = n := by
  cases c with
  | updateGlobalExitRoot now force =>
    rw [call?] at h
    rw [run, Node.updateGlobalExitRoot]
    split at h
    · rename_i current
      rw [if_pos current]
    · cases h
  | _ => cases h

theorem lessons_of_call? (quiet : c.ingests = false) (h : c.call? n = some call) :
    call.lessons = [] := by
  cases c with
  | ingest batch => cases quiet
  | updateGlobalExitRoot now force =>
    rw [call?] at h
    split at h
    · cases h
    · obtain rfl := Option.some.inj h
      rfl
  | setEmergencyState active =>
    obtain rfl := Option.some.inj h
    cases active <;> rfl
  | _ =>
    obtain rfl := Option.some.inj h
    rfl

theorem syncCursor_run (quiet : c.ingests = false) : (c.run n).syncCursor = n.syncCursor := by
  cases c with
  | bridgeAsset now sender d => exact n.syncCursor_deposit _ _
  | bridgeMessage now sender d => exact n.syncCursor_deposit _ _
  | claim kind c => exact n.syncCursor_claim kind c
  | updateGlobalExitRoot now force =>
    rw [run, Node.updateGlobalExitRoot]
    split
    · rfl
    · exact n.syncCursor_publish _
  | updateRollupExitRoot now index root => exact n.syncCursor_publish _
  | ingest batch => cases quiet
  | setEmergencyState active => exact n.syncCursor_setEmergencyState active

end NodeCall

/-! ## Operations and what happens in between -/

namespace Node

/-- A node carries out an operation of a kind, or its book is handled, or what surrounds its ledger
    changes. -/
inductive Acts (rule : NodeCall → Prop) (n : Node) : Node → Prop
  | operation {c : NodeCall} (allowed : rule c) : Acts rule n (c.run n)
  | handled {b : Book} (change : n.bridge.host.Handled b) :
      Acts rule n { n with bridge := { n.bridge with host := b } }
  | noted {n' : Node} (same : n.Same n') (syncCursor : n'.syncCursor = n.syncCursor) :
      Acts rule n n'

variable {rule : NodeCall → Prop} {n n' : Node}

theorem Acts.refl (rule : NodeCall → Prop) (n : Node) : n.Acts rule n := .noted (.refl n) rfl

/-- The ledger makes moves, and stays the same ledger. -/
theorem Acts.exists_chain (h : n.Acts rule n') : n'.deployment = n.deployment ∧
    ∃ moves, n.ledger.Chain n.deployment moves n'.ledger := by
  cases h with
  | @operation c allowed =>
    cases hc : c.call? n with
    | none =>
      rw [NodeCall.run_of_call?_eq_none hc]
      exact ⟨rfl, [], .nil⟩
    | some call =>
      have called := NodeCall.called hc
      obtain ⟨moves, chain, -⟩ := (⟨n.bridge, call⟩ : Step Book).exists_chain n.deployment
      refine ⟨called.deployment, moves, ?_⟩
      rw [called.ledger]
      exact chain
  | handled change => exact ⟨rfl, [], .nil⟩
  | noted same syncCursor =>
    refine ⟨same.deployment, [], ?_⟩
    rw [same.ledger]
    exact .nil

/-- A node's ledger is in a session, whatever the node does. -/
theorem Acts.session {past : List (Step Book)} (h : n.Acts rule n')
    (session : Session n.deployment Book.Handled past n.bridge) :
    ∃ past', Session n'.deployment Book.Handled past' n'.bridge := by
  cases h with
  | @operation c allowed =>
    cases hc : c.call? n with
    | none =>
      rw [NodeCall.run_of_call?_eq_none hc]
      exact ⟨past, session⟩
    | some call =>
      have called := NodeCall.called hc
      have next : Session n.deployment Book.Handled (past ++ [⟨n.bridge, call⟩])
        ((⟨n.bridge, call⟩ : Step Book).after n.deployment) := .call session
      refine ⟨past ++ [⟨n.bridge, call⟩], ?_⟩
      rw [called.deployment, called.bridge]
      exact next
  | handled change => exact ⟨past, session.host change⟩
  | noted same syncCursor =>
    refine ⟨past, ?_⟩
    rw [same.deployment, same.bridge]
    exact session

theorem Acts.isAuthority (h : n.Acts rule n') :
    n'.ledger.roots.isAuthority = n.ledger.roots.isAuthority := by
  obtain ⟨-, moves, chain⟩ := h.exists_chain
  exact chain.preserves (P := fun l => l.roots.isAuthority = n.ledger.roots.isAuthority)
    (fun _ moved same => moved.isAuthority.trans same) rfl

theorem Acts.syncCursor (h : n.Acts (fun c => c.ingests = false) n') :
    n'.syncCursor = n.syncCursor := by
  cases h with
  | operation quiet => exact NodeCall.syncCursor_run quiet
  | handled change => rfl
  | noted same syncCursor => exact syncCursor

/-- No operation but learning from a page teaches a replica, or moves its cursor. -/
theorem Acts.learned {lessons : List Lesson} (h : n.Acts (fun c => c.ingests = false) n')
    (learned : n.ledger.roots.Learned n.deployment.hasher lessons) :
    n'.ledger.roots.Learned n.deployment.hasher lessons ∧ n'.syncCursor = n.syncCursor := by
  refine ⟨?_, h.syncCursor⟩
  cases h with
  | @operation c quiet =>
    cases hc : c.call? n with
    | none => rwa [NodeCall.run_of_call?_eq_none hc]
    | some call =>
      have after := Step.learned (m := ⟨n.bridge, call⟩) learned
      rw [NodeCall.lessons_of_call? quiet hc, List.append_nil] at after
      rwa [(NodeCall.called hc).ledger]
  | handled change => exact learned
  | noted same syncCursor => rwa [same.ledger]

/-! ## Requests -/

/-- What a request that is refused leaves as it is, may act when it is carried out. -/
theorem acts_withBody {α : Type} [Wire α] [Streamed α] {r : Request} {act : α → Response × Node}
    (acts : ∀ body, n.Acts rule (act body).2) : n.Acts rule (n.withBody r act).2 := by
  unfold withBody
  split
  · exact acts _
  · exact .refl rule n

theorem acts_withToken {r : Request} {act : Node → Response × Node}
    (acts : n.Acts rule (act n).2) : n.Acts rule (n.withToken r act).2 := by
  unfold withToken
  split
  · exact acts
  · exact .refl rule n

theorem acts_answerClaim (n : Node) (kind : LeafKind) (request : ClaimRequest) :
    n.Acts (fun c => c.ingests = false) (n.answerClaim kind request).2 := by
  unfold answerClaim
  split
  · rename_i c _
    exact .operation (c := .claim kind c) rfl
  · exact .refl _ n

theorem acts_answerUpdate (n : Node) (now : UInt64) :
    n.Acts (fun c => c.ingests = false) (n.answerUpdate now).2 := by
  have acts : n.Acts (fun c => c.ingests = false) (n.updateGlobalExitRoot now true).2 :=
    .operation (c := .updateGlobalExitRoot now true) rfl
  unfold answerUpdate
  generalize n.updateGlobalExitRoot now true = r at acts ⊢
  obtain ⟨refused | ok, n₁⟩ := r
  · exact acts
  · exact acts

theorem acts_answerEmergency (n : Node) (active : Bool) :
    n.Acts (fun c => c.ingests = false) (n.answerEmergency active).2 := by
  have acts : n.Acts (fun c => c.ingests = false) (n.setEmergencyState active).2 :=
    .operation (c := .setEmergencyState active) rfl
  unfold answerEmergency
  generalize n.setEmergencyState active = r at acts ⊢
  obtain ⟨refused | ok, n₁⟩ := r
  · exact acts
  · exact acts

theorem acts_answerMint (n : Node) (request : MintRequest) :
    n.Acts (fun c => c.ingests = false) (n.answerMint request).2 := by
  unfold answerMint
  split
  · exact .refl _ n
  · exact .handled (.mint _ _ _)

/-- A request has a node carry out one operation, or mint, or it changes nothing that matters. None
    teaches a replica. -/
theorem acts_handle (n : Node) (now : UInt64) (r : Request) :
    n.Acts (fun c => c.ingests = false) (n.handle now r).2 := by
  unfold handle
  split
  · exact .refl _ n
  · rename_i target _
    unfold answerTarget
    split
    · exact .refl _ n
    · rename_i route _
      split
      · exact .refl _ n
      · cases route with
        | metrics => exact .noted (same_refreshGauges n) rfl
        | bridgeAsset =>
          exact acts_withBody fun body => acts_withToken
            (.operation (c := .bridgeAsset now body.sender body.deposit) rfl)
        | bridgeMessage =>
          exact acts_withBody fun body => acts_withToken
            (.operation (c := .bridgeMessage now body.sender body.deposit) rfl)
        | claimAsset => exact acts_withBody (n.acts_answerClaim .asset)
        | claimMessage => exact acts_withBody (n.acts_answerClaim .message)
        | updateGlobalExitRoot => exact acts_withToken (n.acts_answerUpdate now)
        | activateEmergency => exact acts_withToken (n.acts_answerEmergency true)
        | deactivateEmergency => exact acts_withToken (n.acts_answerEmergency false)
        | mint => exact acts_withBody n.acts_answerMint
        | _ => exact .refl _ n

/-! ## Rounds -/

theorem acts_syncRollup (s : PeerSync) (n : Node) (now : UInt64) (index : UInt32)
    (peer : Option Node) :
    n.Acts (fun c => c.ingests = false) (s.syncRollup n now index peer).2.2 := by
  unfold PeerSync.syncRollup
  split
  · exact .refl _ n
  · exact .refl _ n
  · rename_i root _
    have acts : n.Acts (fun c => c.ingests = false) (n.updateRollupExitRoot now index root).2 :=
      .operation (c := .updateRollupExitRoot now index root) rfl
    split
    · exact .refl _ n
    · generalize n.updateRollupExitRoot now index root = r at acts ⊢
      obtain ⟨refused | ok, n₁⟩ := r
      · exact acts
      · exact acts

end Node

end ExitBridge
