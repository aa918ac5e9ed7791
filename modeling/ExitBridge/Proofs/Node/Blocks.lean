/-
  The blocks that a node draws.

  An operation that may publish draws a block first, at a reading of the wall clock, whether or not
  it then succeeds. What it publishes is dated by its block. Readings may go backwards; blocks do
  not.

  * `BlockClock.contexts`, `BlockClock.run`: blocks at readings, one after another.
  * `NodeStep.reading?`, `NodeStep.block?`: the block that an operation draws, and the reading.
  * `NodeStep.draws`, `Operating.draws`: no other operation touches the clock.
  * `Node.Dated`: what is announced is dated, one after another, and not after the clock.
  * `blocks_ordered_and_chained`: over all histories of a node.
-/
import ExitBridge.Proofs.Node.History

namespace ExitBridge

/-! ## Clocks -/

namespace BlockClock

variable {H : NodeHasher} {c : BlockClock} {readings : List UInt64} {k : Nat} {b b' : BlockContext}

theorem timestamp_le_next (H : NodeHasher) (c : BlockClock) (now : UInt64) :
    c.timestamp ≤ (c.next H now).2.timestamp := by
  rw [timestamp_next, show max c.timestamp now = if c.timestamp ≤ now then now else c.timestamp
    from rfl]
  split
  · assumption
  · exact UInt64.le_refl _

/-- The contexts of blocks at readings, one after another. -/
def contexts (H : NodeHasher) (c : BlockClock) : List UInt64 → List BlockContext
  | [] => []
  | now :: readings => (c.next H now).1 :: contexts H (c.next H now).2 readings

/-- The clock after these blocks. -/
def run (H : NodeHasher) (c : BlockClock) (readings : List UInt64) : BlockClock :=
  readings.foldl (fun c now => (c.next H now).2) c

@[simp] theorem length_contexts (H : NodeHasher) (c : BlockClock) (readings : List UInt64) :
    (c.contexts H readings).length = readings.length := by
  induction readings generalizing c with
  | nil => rfl
  | cons now readings ih => exact congrArg (· + 1) (ih _)

theorem contexts_append (H : NodeHasher) (c : BlockClock) (readings more : List UInt64) :
    c.contexts H (readings ++ more) =
      c.contexts H readings ++ (c.run H readings).contexts H more := by
  induction readings generalizing c with
  | nil => rfl
  | cons now readings ih => exact congrArg (List.cons _) (ih _)

theorem run_append (H : NodeHasher) (c : BlockClock) (readings more : List UInt64) :
    c.run H (readings ++ more) = (c.run H readings).run H more := List.foldl_append

theorem height_run (H : NodeHasher) (c : BlockClock) (readings : List UInt64) :
    (c.run H readings).height = c.height + readings.length := by
  induction readings generalizing c with
  | nil => rfl
  | cons now readings ih =>
    refine (ih (c := (c.next H now).2)).trans ?_
    rw [height_next, List.length_cons]
    omega

theorem timestamp_run (H : NodeHasher) (c : BlockClock) (readings : List UInt64) :
    (c.run H readings).timestamp = readings.foldl max c.timestamp := by
  induction readings generalizing c with
  | nil => rfl
  | cons now readings ih => exact ih _

/-- Each block is the next one of the clock after the blocks before it. -/
theorem getElem?_contexts (h : (c.contexts H readings)[k]? = some b) :
    ∃ now, readings[k]? = some now ∧ b = ((c.run H (readings.take k)).next H now).1 := by
  induction readings generalizing c k with
  | nil => cases h
  | cons now readings ih =>
    cases k with
    | zero => exact ⟨now, rfl, (Option.some.inj h).symm⟩
    | succ k => exact ih h

/-- A block is dated by the latest of its reading and those before. -/
theorem timestamp_contexts (h : (c.contexts H readings)[k]? = some b) :
    b.timestamp = (readings.take (k + 1)).foldl max c.timestamp := by
  obtain ⟨now, read, rfl⟩ := getElem?_contexts h
  rw [List.take_add_one, read, List.foldl_append, ← timestamp_run H]
  rfl

theorem blockHash_contexts (h : (c.contexts H readings)[k]? = some b)
    (h' : (c.contexts H readings)[k + 1]? = some b') :
    b'.blockHash = H.hash (b.blockHash.toList ++ bigEndian 8 (c.height + (k + 1)) ++
      bigEndian 8 b.timestamp.toNat) := by
  obtain ⟨now, read, rfl⟩ := getElem?_contexts h
  obtain ⟨now', -, rfl⟩ := getElem?_contexts h'
  have place : (readings.take k).length = k := by
    obtain ⟨inside, -⟩ := List.getElem?_eq_some_iff.1 read
    exact List.length_take_of_le (by omega)
  have height : (c.run H (readings.take k)).height = c.height + k := by
    rw [height_run, place]
  rw [List.take_add_one, read, run_append]
  change H.hash (_ ++ bigEndian 8 ((c.run H (readings.take k)).height + 1) ++ _) = _
  rw [height]
  rfl

theorem blockHash_contexts_zero (h : (c.contexts H readings)[0]? = some b) :
    b.blockHash = c.blockHash := by
  obtain ⟨now, -, rfl⟩ := getElem?_contexts h
  rfl

theorem max?_contexts {genesis : Digest}
    (h : ((ofGenesis genesis).contexts H readings)[k]? = some b) :
    (readings.take (k + 1)).max? = some b.timestamp := by
  rw [timestamp_contexts h]
  cases readings with
  | nil => cases h
  | cons now readings =>
    have first : max 0 now = now := if_pos UInt64.zero_le
    rw [List.take_succ_cons, List.max?_cons', List.foldl_cons, ofGenesis, first]

end BlockClock

/-! ## Drawing -/

namespace NodeStep

/-- The reading of the wall clock at which an operation draws a block, if it draws one. Without new
    deposits, an update of the exit root draws none unless it is forced. -/
def reading? (m : NodeStep) : Option UInt64 :=
  match m.call with
  | .bridgeAsset now _ _ => some now
  | .bridgeMessage now _ _ => some now
  | .updateGlobalExitRoot now force =>
    if !force && m.before.ledger.tree.count == m.before.ledger.lastUpdatedCount then none
    else some now
  | .updateRollupExitRoot now _ _ => some now
  | _ => none

/-- The block that it hands to its ledger. -/
def block? (m : NodeStep) : Option BlockContext := (m.call.call? m.before).bind Call.block?

end NodeStep

namespace Node

variable {α : Type}

@[simp] theorem clock_perform (n : Node) (op : LedgerM Book α) :
    (n.perform op).2.clock = n.clock := by
  unfold perform
  split <;> rfl

@[simp] theorem clock_countDeposit (n : Node) (kind : LeafKind)
    (r : Except LedgerError DepositReceipt) : (n.countDeposit kind r).clock = n.clock := by
  cases r <;> rfl

@[simp] theorem clock_countPublished (n : Node) (before : Nat) :
    (n.countPublished before).clock = n.clock := by
  unfold countPublished
  split <;> rfl

theorem clock_deposit (n : Node) (now : UInt64) (kind : LeafKind)
    (op : BlockContext → LedgerM Book DepositReceipt) :
    (n.deposit now kind op).2.clock = (n.clock.next n.deployment.hasher now).2 := by
  unfold deposit
  rw [clock_countDeposit, clock_perform]
  rfl

theorem clock_publish (n : Node) (now : UInt64) (op : BlockContext → LedgerM Book α) :
    (n.publish now op).2.clock = (n.clock.next n.deployment.hasher now).2 := by
  have clock := (n.drawBlock now).2.clock_perform (op (n.drawBlock now).1)
  unfold publish
  simp only
  generalize (n.drawBlock now).2.perform (op (n.drawBlock now).1) = r at clock ⊢
  obtain ⟨e | a, n₁⟩ := r
  · exact clock
  · exact (n₁.refreshGauges.clock_countPublished n.knownCount).trans clock

theorem clock_claim (n : Node) (kind : LeafKind) (c : Claim) :
    (n.claim kind c).2.clock = n.clock := by
  unfold claim
  simp only
  generalize run : n.perform _ = r
  have clock : r.2.clock = n.clock := run ▸ n.clock_perform _
  obtain ⟨e | receipt, n₁⟩ := r
  · exact clock
  · exact clock

theorem clock_ingest (n : Node) (batch : EventBatch) : (n.ingest batch).2.clock = n.clock := by
  have clock := n.clock_perform (ExitBridge.ingestPeerEvents n.deployment batch)
  unfold ingest
  generalize n.perform (ExitBridge.ingestPeerEvents n.deployment batch) = r at clock ⊢
  obtain ⟨e | count, n₁⟩ := r
  · exact clock
  · exact clock

theorem clock_setEmergencyState (n : Node) (active : Bool) :
    (n.setEmergencyState active).2.clock = n.clock := by
  have clock := n.clock_perform
    (if active then activateEmergencyState else deactivateEmergencyState)
  unfold setEmergencyState
  generalize n.perform (if active then activateEmergencyState else deactivateEmergencyState) = r
    at clock ⊢
  obtain ⟨e | u, n₁⟩ := r
  · exact clock
  · exact clock

end Node

namespace NodeStep

/-- An operation draws a block at its reading, or touches the clock not at all. -/
theorem draws (m : NodeStep) :
    m.block?.toList = m.before.clock.contexts m.before.deployment.hasher m.reading?.toList ∧
      m.after.clock = m.before.clock.run m.before.deployment.hasher m.reading?.toList := by
  obtain ⟨n, c⟩ := m
  cases c with
  | bridgeAsset now sender d => exact ⟨rfl, n.clock_deposit now _ _⟩
  | bridgeMessage now sender d => exact ⟨rfl, n.clock_deposit now _ _⟩
  | claim kind c => exact ⟨rfl, n.clock_claim kind c⟩
  | updateGlobalExitRoot now force =>
    rw [block?, reading?, after, NodeCall.call?, NodeCall.run, Node.updateGlobalExitRoot]
    simp only
    split
    · exact ⟨rfl, rfl⟩
    · exact ⟨rfl, n.clock_publish now _⟩
  | updateRollupExitRoot now index root => exact ⟨rfl, n.clock_publish now _⟩
  | ingest batch => exact ⟨rfl, n.clock_ingest batch⟩
  | setEmergencyState active =>
    refine ⟨?_, n.clock_setEmergencyState active⟩
    cases active <;> rfl

theorem timestamp_of_block? {m : NodeStep} {block : BlockContext} (drawn : m.block? = some block) :
    block.timestamp = m.after.clock.timestamp := by
  obtain ⟨blocks, clock⟩ := m.draws
  rw [drawn] at blocks
  rw [clock]
  cases hreading : m.reading? with
  | none =>
    rw [hreading] at blocks
    cases blocks
  | some now =>
    rw [hreading] at blocks
    obtain rfl := List.singleton_inj.1 blocks
    rfl

theorem timestamp_le_after (m : NodeStep) :
    m.before.clock.timestamp ≤ m.after.clock.timestamp := by
  rw [m.draws.2]
  cases m.reading? with
  | none => exact UInt64.le_refl _
  | some now => exact BlockClock.timestamp_le_next _ _ now

end NodeStep

namespace Operating

variable {H : NodeHasher} {s : Settings} {past : List NodeStep} {n : Node}

/-- The blocks of a node are those of its clock at the readings, one after another. -/
theorem draws (operating : Operating H s past n) :
    past.filterMap (·.block?) =
        (BlockClock.ofGenesis .zero).contexts H (past.filterMap (·.reading?)) ∧
      n.clock = (BlockClock.ofGenesis .zero).run H (past.filterMap (·.reading?)) := by
  induction operating with
  | start created => exact ⟨rfl, (Node.fresh_of_create created).2⟩
  | @operation past m operating ih =>
    obtain ⟨blocks, clock⟩ := ih
    obtain ⟨drawn, after⟩ := m.draws
    rw [operating.hasher, clock] at drawn after
    rw [filterMap_snoc, filterMap_snoc, BlockClock.contexts_append, BlockClock.run_append, blocks,
      drawn]
    exact ⟨rfl, after⟩
  | handled _ _ ih => exact ih

end Operating

/-! ## Dates -/

/-- What a call announces is dated by the block of the call. -/
theorem Call.Makes.dated {σ : Type} [ExecutionHost σ] {D : Deployment} {s : BridgeState σ}
    {host : σ} {call : Call} {answer : Answer} {moves : List Move}
    (h : call.Makes D s answer moves host) {news : Announcement}
    (announced : news ∈ moves.filterMap Move.announcement?) :
    ∃ block, call.block? = some block ∧ news.update.timestamp = block.timestamp := by
  obtain ⟨move, member, told⟩ := List.mem_filterMap.1 announced
  obtain ⟨p, publication, told⟩ := Option.bind_eq_some_iff.1 told
  have made : p ∈ moves.filterMap Move.publication? :=
    List.mem_filterMap.2 ⟨move, member, publication⟩
  rcases h.publication with ⟨block, o, only, drawn, -⟩ | ⟨none, -⟩
  · rw [only] at made
    obtain rfl := List.mem_singleton.1 made
    obtain ⟨update, -, rfl⟩ := Option.map_eq_some_iff.1 told
    exact ⟨block, drawn, rfl⟩
  · rw [none] at made
    cases made

theorem RootStore.Records.exists_of_record? {H : NodeHasher} {roots : RootStore}
    {news : List Announcement} (records : roots.Records H news) {d : Digest}
    {r : GlobalExitRootRecord} (recorded : roots.record? d = some r) :
    ∃ x, news[r.l1InfoIndex.toNat]? = some x ∧ x.update.timestamp = r.timestamp := by
  cases roots with
  | replica => cases recorded
  | authority a =>
    have records : a.Records H news := records
    have recorded : a.record? d = some r := recorded
    have known : a.isKnown d = true := by
      rw [RootAuthority.isKnown, Std.HashMap.contains_eq_isSome_getElem?]
      exact congrArg Option.isSome recorded
    obtain ⟨x, member, rfl⟩ := (records.isKnown d).1 known
    obtain rfl := Option.some.inj ((records.record x member).symm.trans recorded)
    obtain ⟨k, place⟩ := List.getElem?_of_mem member
    have index : x.record.l1InfoIndex.toNat = k := records.l1InfoIndex place
    rw [index]
    exact ⟨x, place, (records.fits k x place).timestamp⟩

/-- What has been announced was told of, and is dated, one after another and not after the clock. -/
structure Node.Dated (told : List Event) (news : List Announcement) (n : Node) : Prop where
  records : n.ledger.roots.Records n.deployment.hasher news
  updates : told.filterMap Event.update? = news.map (·.update)
  reached : ∀ x ∈ news, x.update.timestamp ≤ n.clock.timestamp
  ordered : news.Pairwise (·.update.timestamp ≤ ·.update.timestamp)

theorem NodeStep.exists_dated {m : NodeStep} {told : List Event} {news : List Announcement}
    (dated : m.before.Dated told news) :
    ∃ more, m.after.Dated (told ++ m.events) (news ++ more) := by
  obtain ⟨deployment, moves, chain, events, step⟩ := m.exists_told
  have now : ∀ x ∈ moves.filterMap Move.announcement?,
      x.update.timestamp = m.after.clock.timestamp := by
    intro x announced
    rcases step with ⟨call, answer, called, -, makes⟩ | ⟨-, rfl⟩
    · obtain ⟨block, own, date⟩ := makes.dated announced
      have drawn : m.block? = some block := by
        rw [block?, called, Option.bind_some, own]
      exact date.trans (timestamp_of_block? drawn)
    · cases announced
  refine ⟨moves.filterMap Move.announcement?, ?_, ?_, fun x hx => ?_, ?_⟩
  · rw [deployment]
    exact chain.records dated.records
  · rw [List.filterMap_append, dated.updates, events,
      Move.filterMap_flatMap_events Move.updates_events, List.map_append, List.map_filterMap]
  · rcases List.mem_append.1 hx with old | new
    · exact UInt64.le_trans (dated.reached x old) m.timestamp_le_after
    · rw [now x new]
      exact UInt64.le_refl _
  · refine List.pairwise_append.2 ⟨dated.ordered, ?_, fun x old y new => ?_⟩
    · refine List.pairwise_of_forall_mem_list fun x hx y hy => ?_
      rw [now x hx, now y hy]
      exact UInt64.le_refl _
    · rw [now y new]
      exact UInt64.le_trans (dated.reached x old) m.timestamp_le_after

section Histories

variable {H : NodeHasher} {s : Settings} {past : List NodeStep} {n : Node}

theorem Operating.exists_dated (operating : Operating H s past n) :
    ∃ news, n.Dated (past.flatMap (·.events)) news := by
  induction operating with
  | start created =>
    obtain ⟨-, genesis, -⟩ := Node.create_eq_ok created
    refine ⟨[], ?_, rfl, nofun, .nil⟩
    rw [genesis]
    exact RootStore.records_ofRole _ _
  | @operation past m _ ih =>
    obtain ⟨news, dated⟩ := ih
    obtain ⟨more, dated⟩ := NodeStep.exists_dated dated
    refine ⟨news ++ more, ?_⟩
    rw [List.flatMap_append, List.flatMap_singleton]
    exact dated
  | handled _ _ ih =>
    obtain ⟨news, dated⟩ := ih
    exact ⟨news, dated.records, dated.updates, dated.reached, dated.ordered⟩

/-- Records in the order of their indexes are in the order of their dates. -/
theorem Node.Dated.records_ordered {told : List Event} {news : List Announcement}
    (dated : n.Dated told news) {d d' : Digest} {r r' : GlobalExitRootRecord}
    (recorded : n.ledger.roots.record? d = some r) (recorded' : n.ledger.roots.record? d' = some r')
    (earlier : r.l1InfoIndex ≤ r'.l1InfoIndex) : r.timestamp ≤ r'.timestamp := by
  obtain ⟨x, place, date⟩ := dated.records.exists_of_record? recorded
  obtain ⟨x', place', date'⟩ := dated.records.exists_of_record? recorded'
  rw [← date, ← date']
  rcases Nat.lt_or_eq_of_le (UInt32.le_iff_toNat_le.1 earlier) with before | same
  · obtain ⟨inside, rfl⟩ := List.getElem?_eq_some_iff.1 place
    obtain ⟨inside', rfl⟩ := List.getElem?_eq_some_iff.1 place'
    exact List.pairwise_iff_getElem.1 dated.ordered _ _ inside inside' before
  · rw [same, place'] at place
    obtain rfl := Option.some.inj place
    exact UInt64.le_refl _

/-- **Blocks are ordered and chained.** Whatever operations a node has carried out, at readings of
    the wall clock that may go backwards: it has drawn a block at each reading, whether or not the
    operation succeeded. A block has the latest reading so far as its timestamp. The first one has
    the hash zero, and every other one the hash of the one before: that of its hash, its height and
    its timestamp. The updates that the journal has been told of are in the order of their
    timestamps, and so are the records of global exit roots by their index. -/
theorem blocks_ordered_and_chained (operating : Operating H s past n) :
    let readings := past.filterMap (·.reading?)
    let blocks := past.filterMap (·.block?)
    let told := past.flatMap (·.events)
    blocks.length = readings.length ∧
      (∀ k b, blocks[k]? = some b → (readings.take (k + 1)).max? = some b.timestamp) ∧
      (∀ b, blocks[0]? = some b → b.blockHash = .zero) ∧
      (∀ k b b', blocks[k]? = some b → blocks[k + 1]? = some b' →
        b'.blockHash = H.hash (b.blockHash.toList ++ bigEndian 8 (k + 1) ++
          bigEndian 8 b.timestamp.toNat)) ∧
      n.ledger.journal = (Journal.empty s.journalRetention).pushAll told ∧
      (told.filterMap Event.update?).Pairwise (·.timestamp ≤ ·.timestamp) ∧
      ∀ d d' r r', n.ledger.roots.record? d = some r → n.ledger.roots.record? d' = some r' →
        r.l1InfoIndex ≤ r'.l1InfoIndex → r.timestamp ≤ r'.timestamp := by
  obtain ⟨blocks, -⟩ := operating.draws
  obtain ⟨news, dated⟩ := operating.exists_dated
  simp only [blocks]
  refine ⟨BlockClock.length_contexts .., fun k b hb => BlockClock.max?_contexts hb,
    fun b hb => BlockClock.blockHash_contexts_zero hb, fun k b b' hb hb' => ?_, operating.journal,
    ?_, fun d d' r r' hr hr' earlier => dated.records_ordered hr hr' earlier⟩
  · have chained := BlockClock.blockHash_contexts hb hb'
    rwa [BlockClock.ofGenesis, Nat.zero_add] at chained
  · rw [dated.updates, List.pairwise_map]
    exact dated.ordered

end Histories

/-- A message is refused in a block at reading 9, and a rollup's root is published in the next one,
    at reading 5. -/
theorem blocks_ordered_and_chained_two : ∃ (m m' : NodeStep) (b b' : BlockContext),
    Operating .keccak .soleAuthority [m, m'] m'.after ∧
      [m, m'].filterMap (·.reading?) = [9, 5] ∧ [m, m'].filterMap (·.block?) = [b, b'] ∧
      (∃ e, m.answer = .error e) ∧ (∃ d, m'.after.ledger.roots.isKnown d = true) ∧
      b.timestamp = 9 ∧ b.blockHash = .zero ∧ b'.timestamp = 9 ∧
      b'.blockHash = NodeHasher.keccak.hash
        (Digest.zero.toList ++ bigEndian 8 1 ++ bigEndian 8 9) := by
  obtain ⟨n, created, genesis, network⟩ := Node.exists_create_soleAuthority
  let m : NodeStep := ⟨n, .bridgeMessage 9 .zero default⟩
  have operational : n.ledger.emergency = false := by
    rw [genesis]
    rfl
  have refused := NodeCall.answer_of_own_network operational 9 .zero
    (show (default : MessageDeposit).destinationNetwork = n.deployment.config.networkId from
      network.symm)
  let m' : NodeStep := ⟨m.after, .updateRollupExitRoot 5 0 .zero⟩
  -- the second one publishes a global exit root
  have authority : m.after.ledger.roots = .authority .empty := by
    rw [m.ledger_of_error refused, genesis]
    rfl
  obtain ⟨told, b, a, hrun, roots, -, known, -⟩ :=
    exists_updateRollupExitRoot (D := m.after.deployment) (s := m.after.bridge) .zero
      (m.after.drawBlock 5).1 authority rfl (show (0 : UInt32).toNat < maxTrackedRollups by decide)
  have published : ∃ d, m'.after.ledger.roots.isKnown d = true := by
    have ran : (Call.updateRollupExitRoot 0 .zero (m.after.drawBlock 5).1).run m.after.deployment
        m.after.bridge = .ok (.published (some told)) b := LedgerM.map_eq_ok.2 ⟨told, hrun, rfl⟩
    have ledger : m'.after.ledger = b.ledger := by
      rw [NodeStep.after, (NodeCall.called (n := m.after) (c := m'.call) rfl).ledger, Step.after,
        ran]
    rw [ledger, roots]
    exact ⟨_, known⟩
  have operating : Operating .keccak .soleAuthority [m, m'] m'.after :=
    .operation (m := m') (.operation (m := m) (.start created))
  obtain ⟨-, dates, first, chained, -⟩ := blocks_ordered_and_chained operating
  have date : (n.drawBlock 9).1.timestamp = 9 := (Option.some.inj (dates 0 _ rfl)).symm
  have hash := chained 0 (n.drawBlock 9).1 (m.after.drawBlock 5).1 rfl rfl
  rw [first _ rfl, date] at hash
  exact ⟨m, m', (n.drawBlock 9).1, (m.after.drawBlock 5).1, operating, rfl, rfl,
    ⟨_, refused⟩, published, date, first _ rfl, (Option.some.inj (dates 1 _ rfl)).symm, hash⟩

end ExitBridge
