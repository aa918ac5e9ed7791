/-
  What the steps of operations change.

  Invariants read a part of a ledger only, its core, and the global exit roots that it knows or
  tells of. So the lemmas here say of each step what the core is afterwards, and where the global
  exit roots come from that are known or told of afterwards.

  * `Ledger.core`: tree, claimed keys, what the store of global exit roots holds, and the emergency
    state.
  * `Ledger.Learns`: what is known or told of afterwards was so before, or is news.
  * `publishLocalRoot_eq_ok`, `commitDeposit_eq_ok`, `finishClaim_eq_ok`, …
-/
import ExitBridge.Proofs.ExitRoot.Publish
import ExitBridge.Proofs.Ledger.Monad
import ExitBridge.Proofs.ReplayGuard
import ExitBridge.Proofs.WrappedTokens

namespace ExitBridge

/-! ## The journal -/

namespace Journal

variable {j : Journal} {event : Event} {roots : GlobalExitRoot}

theorem mem_push {x : Event} (h : x ∈ (j.push event).events) : x ∈ j.events ∨ x = event := by
  have kept : x ∈ j.events.push event := by
    rw [push] at h
    split at h
    · exact h
    · rw [Array.mem_def, Array.toList_extract] at h
      exact Array.mem_def.2 (List.mem_of_mem_drop (List.mem_of_mem_take h))
  simpa using kept

/-- The journal tells of a global exit root with these halves. -/
def Tells (j : Journal) (roots : GlobalExitRoot) : Prop :=
  ∃ e, Event.updateL1InfoTree e ∈ j.events ∧ roots = ⟨e.mainnetExitRoot, e.rollupExitRoot⟩

/-- Only the event of a new global exit root adds to what the journal tells of. -/
theorem tells_of_push (h : (j.push event).Tells roots) : j.Tells roots ∨
    ∃ e, event = .updateL1InfoTree e ∧ roots = ⟨e.mainnetExitRoot, e.rollupExitRoot⟩ := by
  obtain ⟨e, hmem, rfl⟩ := h
  rcases mem_push hmem with old | new
  · exact .inl ⟨e, old, rfl⟩
  · exact .inr ⟨e, new.symm, rfl⟩

end Journal

/-! ## What invariants read -/

/-- The part of a ledger that invariants read. -/
structure LedgerCore where
  tree : ExitTree
  claimed : ReplayGuard
  roots : RootView
  emergency : Bool

namespace Ledger

/-- The part of a ledger that invariants read. -/
def core (l : Ledger) : LedgerCore := ⟨l.tree, l.claimed, l.roots.view, l.emergency⟩

/-- What is known or told of afterwards was so before, or is news. -/
structure Learns (H : NodeHasher) (l : Ledger) (news : GlobalExitRoot → Prop) (l' : Ledger) :
    Prop where
  isKnown : ∀ d, l'.roots.isKnown d = true → l.roots.isKnown d = true ∨ ∃ p, news p ∧ d = p.hash H
  tells : ∀ p, l'.journal.Tells p → l.journal.Tells p ∨ news p

/-- The global exit root of the halves held is known. -/
def KnowsHalves (H : NodeHasher) (l : Ledger) : Prop :=
  ∀ p ∈ l.core.roots.halves?, l.roots.isKnown (p.hash H) = true

variable {H : NodeHasher} {l l₁ l' : Ledger} {news news' : GlobalExitRoot → Prop}

theorem Learns.mono (h : l.Learns H news l') (le : ∀ p, news p → news' p) :
    l.Learns H news' l' where
  isKnown d hd := (h.isKnown d hd).imp_right fun ⟨p, hp, hash⟩ => ⟨p, le p hp, hash⟩
  tells p hp := (h.tells p hp).imp_right (le p)

theorem Learns.trans (h : l.Learns H news l₁) (h' : l₁.Learns H news l') : l.Learns H news l' where
  isKnown d hd := (h'.isKnown d hd).elim (h.isKnown d) .inr
  tells p hp := (h'.tells p hp).elim (h.tells p) .inr

theorem Learns.of_same (roots : l'.roots = l.roots) (journal : l'.journal = l.journal) :
    l.Learns H news l' where
  isKnown _ hd := .inl (roots ▸ hd)
  tells _ hp := .inl (journal ▸ hp)

theorem Learns.of_push {event : Event} (other : ∀ e, event ≠ .updateL1InfoTree e)
    (roots : l'.roots = l.roots) (journal : l'.journal = l.journal.push event) :
    l.Learns H news l' where
  isKnown _ hd := .inl (roots ▸ hd)
  tells p hp := by
    rcases Journal.tells_of_push (journal ▸ hp) with old | ⟨e, new, -⟩
    · exact .inl old
    · exact absurd new (other e)

end Ledger

open LedgerM

variable {σ : Type} {D : Deployment} {s s' : BridgeState σ} {block : BlockContext}

/-! ## Publications -/

theorem announceOutcome_eq_ok {o : PublishOutcome} {u : Unit}
    (h : announceOutcome o block s = .ok u s') : s'.ledger.core = s.ledger.core ∧
      s'.ledger.roots = s.ledger.roots ∧
      ∀ p, s'.ledger.journal.Tells p → s.ledger.journal.Tells p ∨ p = o.roots := by
  rw [announceOutcome] at h
  cases hevent : o.event? block with
  | some event =>
    rw [hevent] at h
    obtain rfl := emit_eq_ok.1 h
    obtain ⟨update, -, rfl⟩ := Option.map_eq_some_iff.1 hevent
    refine ⟨rfl, rfl, fun p hp => (Journal.tells_of_push hp).imp_right ?_⟩
    rintro ⟨e, ⟨⟩, rfl⟩
    rfl
  | none =>
    rw [hevent] at h
    obtain ⟨-, rfl⟩ := pure_eq_ok.1 h
    exact ⟨rfl, rfl, fun p hp => .inl hp⟩

theorem announceOutcome_eq_error {o : PublishOutcome} {e : LedgerError} :
    announceOutcome o block s = .error e s' ↔ False := by
  rw [announceOutcome]
  cases o.event? block with
  | some event => exact emit_eq_error
  | none => exact pure_eq_error

/-- Publishing replaces the network's own exit root, and makes known the authority's new global
    exit root. -/
theorem publishLocalRoot_eq_ok {told : Option Digest}
    (h : publishLocalRoot D block s = .ok told s') :
    s'.ledger.core = { s.ledger.core with roots :=
        { s.ledger.core.roots with ownRoot := s.ledger.tree.root D.hasher } } ∧
      s.ledger.Learns D.hasher (· ∈ s'.ledger.core.roots.halves?) s'.ledger ∧
      told = s'.ledger.core.roots.halves?.map (·.hash D.hasher) := by
  simp only [publishLocalRoot, bind_eq_ok, ledger_eq_ok, ofResult_eq_ok, change_eq_ok] at h
  obtain ⟨_, _, ⟨rfl, rfl⟩, ⟨o, roots⟩, _, ⟨hrecord, rfl⟩, _, _, rfl, h⟩ := h
  obtain ⟨view, halves, hash, known⟩ := RootStore.recordLocal_eq_ok hrecord
  cases o with
  | none =>
    obtain ⟨rfl, rfl⟩ := pure_eq_ok.1 h
    refine ⟨by simp only [Ledger.core, view], ⟨fun d hd => ?_, fun p hp => .inl hp⟩, hash⟩
    exact (known d).1 hd
  | some o =>
    obtain ⟨_, _, hannounce, h⟩ := bind_eq_ok.1 h
    obtain ⟨rfl, rfl⟩ := pure_eq_ok.1 h
    obtain ⟨core, store, tells⟩ := announceOutcome_eq_ok hannounce
    refine ⟨by rw [core]; simp only [Ledger.core, view], ⟨fun d hd => ?_, fun p hp => ?_⟩, ?_⟩
    · rw [core]
      rw [store] at hd
      exact (known d).1 hd
    · refine (tells p hp).imp id fun heq => ?_
      rw [core]
      exact halves.symm.trans (congrArg some heq.symm)
    · rw [core]
      exact hash

/-- A publication is refused only when there is no room for a new global exit root. -/
theorem publishLocalRoot_eq_error {e : LedgerError} (h : publishLocalRoot D block s = .error e s') :
    s.ledger.roots.canPublish = false ∧ s' = s := by
  simp only [publishLocalRoot, bind_eq_error, ledger_eq_error, ledger_eq_ok, ofResult_eq_error,
    ofResult_eq_ok, change_eq_error, change_eq_ok, false_or] at h
  obtain ⟨_, _, ⟨rfl, rfl⟩, ⟨hrefused, rfl⟩ | ⟨answer, _, ⟨-, rfl⟩, _, _, rfl, h⟩⟩ := h
  · refine ⟨Bool.eq_false_iff.2 fun room => ?_, rfl⟩
    obtain ⟨_, hrecord⟩ := RootStore.exists_recordLocal D.hasher block
      (s.ledger.tree.root D.hasher) room
    rw [hrecord] at hrefused
    cases hrefused
  · cases hoption : answer.1 with
    | none =>
      rw [hoption] at h
      exact (pure_eq_error.1 h).elim
    | some o =>
      simp only [hoption, bind_eq_error, announceOutcome_eq_error, pure_eq_error, false_or,
        and_false, exists_false] at h

/-! ## Deposits -/

theorem requireOtherNetwork_eq_ok {destination : UInt32} {u : Unit} :
    (requireOtherNetwork D destination : LedgerM σ Unit) s = .ok u s' ↔
      destination ≠ D.config.networkId ∧ s = s' := by
  simp only [requireOtherNetwork, require_eq_ok, bne_iff_ne]

theorem requireOtherNetwork_eq_error {destination : UInt32} {e : LedgerError}
    (h : (requireOtherNetwork D destination : LedgerM σ Unit) s = .error e s') : s' = s := by
  rw [requireOtherNetwork, require_eq_error] at h
  exact h.2.2.symm

theorem requireCapacity_eq_ok {forceUpdate : Bool} {u : Unit} :
    (requireCapacity forceUpdate : LedgerM σ Unit) s = .ok u s' ↔
      s.ledger.tree.isFull = false ∧ (forceUpdate = true → s.ledger.roots.canPublish = true) ∧
        s = s' := by
  simp only [requireCapacity, bind_eq_ok, ledger_eq_ok, require_eq_ok, Bool.not_eq_true',
    Bool.or_eq_true]
  cases forceUpdate <;> grind

theorem requireCapacity_eq_error {forceUpdate : Bool} {e : LedgerError}
    (h : (requireCapacity forceUpdate : LedgerM σ Unit) s = .error e s') : s' = s := by
  simp only [requireCapacity, bind_eq_error, ledger_eq_error, ledger_eq_ok, require_eq_error,
    require_eq_ok] at h
  grind

/-- A deposit has been committed: the tree has its leaf as the newest one, and if that was asked
    for, its root has been published. -/
structure Deposited (D : Deployment) (leaf : Leaf) (forceUpdate : Bool) (l : Ledger)
    (receipt : DepositReceipt) (l' : Ledger) : Prop where
  append : l.tree.append D.hasher (leaf.hash D.hasher) = .ok (l.tree.count, l'.tree)
  core : l'.core = { l.core with
    tree := l'.tree
    roots := if forceUpdate then { l.core.roots with ownRoot := l'.tree.root D.hasher }
      else l.core.roots }
  learns : l.Learns D.hasher (· ∈ l'.core.roots.halves?) l'
  depositCount : receipt.depositCount = UInt32.ofNat l.tree.count
  leafHash : receipt.leafHash = leaf.hash D.hasher
  amount : receipt.amount = leaf.amount
  globalExitRoot : forceUpdate = true →
    receipt.globalExitRoot = l'.core.roots.halves?.map (·.hash D.hasher)

theorem commitDeposit_eq_ok {leaf : Leaf} {metadata : Bytes} {forceUpdate : Bool}
    {receipt : DepositReceipt}
    (h : commitDeposit D leaf metadata forceUpdate block s = .ok receipt s') :
    Deposited D leaf forceUpdate s.ledger receipt s'.ledger := by
  simp only [commitDeposit, bind_eq_ok, ledger_eq_ok, ofResult_eq_ok, change_eq_ok,
    emit_eq_ok] at h
  obtain ⟨_, _, ⟨rfl, rfl⟩, ⟨index, tree⟩, _, ⟨happend, rfl⟩, _, _, rfl, _, _, rfl, h⟩ := h
  have count : index = s.ledger.tree.count := ExitTree.index_of_append happend
  subst count
  cases forceUpdate with
  | false =>
    obtain ⟨_, _, hpure, h⟩ := bind_eq_ok.1 h
    obtain ⟨rfl, rfl⟩ := pure_eq_ok.1 hpure
    obtain ⟨rfl, rfl⟩ := pure_eq_ok.1 h
    exact ⟨happend, rfl, .of_push (by simp) rfl rfl, rfl, rfl, rfl, by simp⟩
  | true =>
    obtain ⟨told, _, hpublish, h⟩ := bind_eq_ok.1 h
    obtain ⟨rfl, rfl⟩ := pure_eq_ok.1 h
    obtain ⟨core, learns, rfl⟩ := publishLocalRoot_eq_ok hpublish
    have htree := congrArg LedgerCore.tree core
    simp only [Ledger.core] at htree
    refine ⟨htree ▸ happend, ?_, ?_, rfl, rfl, rfl, fun _ => rfl⟩
    · rw [core, htree, if_pos rfl]
      rfl
    · refine Ledger.Learns.trans ?_ learns
      exact .of_push (by simp) rfl rfl

/-- What has been checked before makes a deposit succeed. -/
theorem false_of_commitDeposit_error {leaf : Leaf} {metadata : Bytes} {forceUpdate : Bool}
    {e : LedgerError} (h : commitDeposit D leaf metadata forceUpdate block s = .error e s')
    (room : s.ledger.tree.isFull = false)
    (canPublish : forceUpdate = true → s.ledger.roots.canPublish = true) : False := by
  simp only [commitDeposit, bind_eq_error, ledger_eq_error, ledger_eq_ok, ofResult_eq_error,
    ofResult_eq_ok, change_eq_error, change_eq_ok, emit_eq_error, emit_eq_ok, false_or] at h
  obtain ⟨_, _, ⟨rfl, rfl⟩, ⟨hrefused, -⟩ | ⟨_, _, ⟨-, rfl⟩, _, _, rfl, _, _, rfl, h⟩⟩ := h
  · simp [ExitTree.append, room] at hrefused
  · cases forceUpdate with
    | false => simp [pure_eq_error] at h
    | true =>
      rcases bind_eq_error.1 h with hpublish | ⟨_, _, -, h⟩
      · have refused := (publishLocalRoot_eq_error hpublish).1
        exact Bool.false_ne_true (refused.symm.trans (canPublish rfl))
      · exact pure_eq_error.1 h

/-! ## Claims -/

theorem requireOperational_eq_ok {u : Unit} : (requireOperational : LedgerM σ Unit) s = .ok u s' ↔
    s.ledger.emergency = false ∧ s = s' := by
  simp only [requireOperational, bind_eq_ok, ledger_eq_ok, require_eq_ok, Bool.not_eq_true']
  grind

theorem requireOperational_eq_error {e : LedgerError} :
    (requireOperational : LedgerM σ Unit) s = .error e s' ↔
      s.ledger.emergency = true ∧ .onlyNotEmergencyState = e ∧ s = s' := by
  simp only [requireOperational, bind_eq_error, ledger_eq_error, ledger_eq_ok, require_eq_error,
    false_or, Bool.not_eq_false']
  grind

theorem verifyClaim_eq_ok {roots : RootStore} {kind : LeafKind} {c : Claim} {key : ScopeKey} :
    verifyClaim D roots kind c = .ok key ↔ c.destinationNetwork = D.config.networkId ∧
      roots.isKnown (c.globalExitRoot D.hasher) = true ∧
      c.provesLeaf D.hasher ((c.leaf D.hasher kind).hash D.hasher) = true ∧
      c.globalIndex.scopeKey D.config.mainnetNetworkId = .ok key := by
  unfold verifyClaim
  split
  · simp_all
  · split
    · simp_all
    · split <;> simp_all

theorem admitClaim_eq_ok {kind : LeafKind} {c : Claim} {key : ScopeKey} :
    admitClaim D kind c s = .ok key s' ↔ s.ledger.emergency = false ∧
      verifyClaim D s.ledger.roots kind c = .ok key ∧ s.ledger.claimed.isClaimed key = false ∧
      s = s' := by
  simp only [admitClaim, bind_eq_ok, requireOperational_eq_ok, ledger_eq_ok, ofResult_eq_ok,
    require_eq_ok, pure_eq_ok, Bool.not_eq_true']
  grind

theorem admitClaim_eq_error {kind : LeafKind} {c : Claim} {e : LedgerError}
    (h : admitClaim D kind c s = .error e s') : s' = s := by
  simp only [admitClaim, bind_eq_error, requireOperational_eq_error, requireOperational_eq_ok,
    ledger_eq_error, ledger_eq_ok, ofResult_eq_error, ofResult_eq_ok, require_eq_error,
    require_eq_ok, pure_eq_error] at h
  grind

/-- A claim has been marked: its key, and nothing else that invariants read. -/
structure Marked (key : ScopeKey) (l l' : Ledger) : Prop where
  mark : l.claimed.mark key = .ok l'.claimed
  core : l'.core = { l.core with claimed := l'.claimed }
  learns : ∀ {H : NodeHasher} {news : GlobalExitRoot → Prop}, l.Learns H news l'

theorem finishClaim_eq_ok {key : ScopeKey} {c : Claim} {u : Unit}
    (h : finishClaim key c s = .ok u s') : Marked key s.ledger s'.ledger := by
  simp only [finishClaim, bind_eq_ok, ledger_eq_ok, ofResult_eq_ok, change_eq_ok, emit_eq_ok] at h
  obtain ⟨_, _, ⟨rfl, rfl⟩, claimed, _, ⟨hmark, rfl⟩, _, _, rfl, rfl⟩ := h
  exact ⟨hmark, rfl, .of_push (by simp) rfl rfl⟩

theorem false_of_finishClaim_error {key : ScopeKey} {c : Claim} {e : LedgerError}
    (h : finishClaim key c s = .error e s') (free : s.ledger.claimed.isClaimed key = false) :
    False := by
  obtain ⟨claimed, hmark⟩ := ReplayGuard.exists_mark free
  simp [finishClaim, bind_eq_error, ledger_eq_error, ledger_eq_ok, ofResult_eq_error, hmark,
    change_eq_error, emit_eq_error] at h

theorem registerWrapped_eq_ok {c : Claim} {token : Address} {u : Unit}
    (h : registerWrapped D c token s = .ok u s') : s'.ledger.core = s.ledger.core ∧
      ∀ {H : NodeHasher} {news : GlobalExitRoot → Prop}, s.ledger.Learns H news s'.ledger := by
  simp only [registerWrapped, bind_eq_ok, ledger_eq_ok, ofResult_eq_ok, change_eq_ok,
    emit_eq_ok] at h
  obtain ⟨_, _, ⟨rfl, rfl⟩, wrapped, _, ⟨-, rfl⟩, _, _, rfl, rfl⟩ := h
  exact ⟨rfl, .of_push (by simp) rfl rfl⟩

theorem registerWrapped_eq_error {c : Claim} {token : Address} {e : LedgerError}
    (h : registerWrapped D c token s = .error e s') :
    ((s.ledger.wrapped.resolve? D.hasher ⟨c.originNetwork, c.originAddress⟩).isSome = true ∨
      s.ledger.wrapped.byAddress.contains token = true) ∧ s' = s := by
  simp only [registerWrapped, bind_eq_error, ledger_eq_error, ledger_eq_ok, ofResult_eq_error,
    ofResult_eq_ok, change_eq_error, emit_eq_error, false_or, and_false, exists_false,
    or_false] at h
  obtain ⟨_, _, ⟨rfl, rfl⟩, refused, rfl⟩ := h
  exact ⟨WrappedTokens.register_eq_error refused, rfl⟩

/-! ## Exit roots -/

theorem importGlobalExitRoot_eq_ok {roots : GlobalExitRoot} {timestamp : UInt64} {isNew : Bool}
    (h : importGlobalExitRoot D roots timestamp s = .ok isNew s') :
    s.ledger.roots.isAuthority = false ∧ s'.ledger.core = s.ledger.core ∧
      s.ledger.Learns D.hasher (· = roots) s'.ledger := by
  simp only [importGlobalExitRoot, bind_eq_ok, ledger_eq_ok] at h
  obtain ⟨_, _, ⟨rfl, rfl⟩, h⟩ := h
  cases hroots : s.ledger.roots with
  | authority a =>
    rw [hroots] at h
    exact (throw_eq_ok.1 h).elim
  | replica r =>
    simp only [hroots, bind_eq_ok, change_eq_ok, pure_eq_ok] at h
    obtain ⟨_, _, rfl, rfl, rfl⟩ := h
    refine ⟨rfl, ?_, fun d hd => ?_, fun p hp => .inl hp⟩
    · simp only [Ledger.core, hroots, RootStore.view, RootReplica.lastLocalExitRoot_learn]
    · rw [hroots]
      rcases (r.isKnown_learn _ _ _).1 hd with known | rfl
      · exact .inl known
      · exact .inr ⟨roots, rfl, rfl⟩

theorem importGlobalExitRoot_eq_error {roots : GlobalExitRoot} {timestamp : UInt64}
    {e : LedgerError} (h : importGlobalExitRoot D roots timestamp s = .error e s') :
    s.ledger.roots.isAuthority = true ∧ s' = s := by
  simp only [importGlobalExitRoot, bind_eq_error, ledger_eq_error, ledger_eq_ok, false_or] at h
  obtain ⟨_, _, ⟨rfl, rfl⟩, h⟩ := h
  cases hroots : s.ledger.roots with
  | authority a =>
    rw [hroots] at h
    obtain ⟨-, rfl⟩ := throw_eq_error.1 h
    exact ⟨rfl, rfl⟩
  | replica r =>
    simp only [hroots, bind_eq_error, change_eq_error, pure_eq_error, and_false, exists_false,
      or_self] at h

/-- Learning from a list of events: the global exit roots that they tell of. Only a replica does. -/
theorem ingestEvents_eq_ok {events : List Event} {count : Nat}
    (h : ingestEvents D events s = .ok count s') :
    (∀ e, Event.updateL1InfoTree e ∈ events → s.ledger.roots.isAuthority = false) ∧
      s'.ledger.core = s.ledger.core ∧
      s.ledger.Learns D.hasher (fun p => ∃ e, Event.updateL1InfoTree e ∈ events ∧
        p = ⟨e.mainnetExitRoot, e.rollupExitRoot⟩) s'.ledger := by
  fun_induction ingestEvents D events generalizing s count with
  | case1 =>
    obtain ⟨-, rfl⟩ := pure_eq_ok.1 h
    exact ⟨nofun, rfl, .of_same rfl rfl⟩
  | case2 e rest ih =>
    simp only [bind_eq_ok, pure_eq_ok] at h
    obtain ⟨isNew, s₁, himport, more, _, hrest, -, rfl⟩ := h
    obtain ⟨replica, core, learns⟩ := importGlobalExitRoot_eq_ok himport
    obtain ⟨-, core', learns'⟩ := ih hrest
    refine ⟨fun _ _ => replica, core'.trans core, (learns.mono ?_).trans (learns'.mono ?_)⟩
    · rintro p rfl
      exact ⟨e, List.mem_cons_self, rfl⟩
    · rintro p ⟨e', hmem, rfl⟩
      exact ⟨e', List.mem_cons_of_mem _ hmem, rfl⟩
  | case3 event rest other ih =>
    obtain ⟨replica, core, learns⟩ := ih h
    refine ⟨fun e hmem => ?_, core, learns.mono ?_⟩
    · rcases List.mem_cons.1 hmem with rfl | hmem
      · exact (other e rfl).elim
      · exact replica e hmem
    rintro p ⟨e, hmem, rfl⟩
    exact ⟨e, List.mem_cons_of_mem _ hmem, rfl⟩

theorem ingestEvents_eq_error {events : List Event} {e : LedgerError}
    (h : ingestEvents D events s = .error e s') :
    s.ledger.roots.isAuthority = true ∧ s' = s := by
  fun_induction ingestEvents D events generalizing s with
  | case1 => exact (pure_eq_error.1 h).elim
  | case2 update rest ih =>
    simp only [bind_eq_error, pure_eq_error, and_false, exists_false, or_false] at h
    rcases h with himport | ⟨isNew, s₁, himport, hrest⟩
    · exact importGlobalExitRoot_eq_error himport
    · -- only a replica learns, and it stays one
      obtain ⟨replica, core, -⟩ := importGlobalExitRoot_eq_ok himport
      have role := congrArg (fun c => c.roots.isAuthority) core
      simp only [Ledger.core, RootStore.isAuthority_view, replica, (ih hrest).1] at role
      cases role
  | case3 event rest _ ih => exact ih h

/-- Folding in a rollup's exit root: the rollups' exit root is their common root again, and the
    new global exit root becomes known. -/
theorem updateRollupExitRoot_eq_ok {index : UInt32} {root told : Digest}
    (h : updateRollupExitRoot D index root block s = .ok told s') :
    s.ledger.roots.isAuthority = true ∧ ∃ rollups,
      s.ledger.roots.view.rollups.set index root = .ok rollups ∧
      s'.ledger.core = { s.ledger.core with roots := { s.ledger.core.roots with
        rollups := rollups, rollupExitRoot := rollups.root D.hasher } } ∧
      s.ledger.Learns D.hasher (· ∈ s'.ledger.core.roots.halves?) s'.ledger ∧
      s'.ledger.KnowsHalves D.hasher := by
  simp only [updateRollupExitRoot, bind_eq_ok, ledger_eq_ok] at h
  obtain ⟨_, _, ⟨rfl, rfl⟩, h⟩ := h
  cases hroots : s.ledger.roots with
  | replica r =>
    rw [hroots] at h
    exact (throw_eq_ok.1 h).elim
  | authority a =>
    simp only [hroots, bind_eq_ok, ofResult_eq_ok, change_eq_ok, pure_eq_ok] at h
    obtain ⟨⟨o, a'⟩, _, ⟨hupdate, rfl⟩, _, _, rfl, _, _, hannounce, -, rfl⟩ := h
    obtain ⟨hset, mainnet, rollup, halves, known⟩ := RootAuthority.updateRollup_eq_ok hupdate
    obtain ⟨core, store, tells⟩ := announceOutcome_eq_ok hannounce
    have holds : o.roots ∈ (RootStore.authority a').view.halves? := congrArg some halves.symm
    refine ⟨rfl, a'.rollups, hset, ?_, ⟨fun d hd => ?_, fun p hp => ?_⟩, fun p hp => ?_⟩
    · rw [core]
      simp only [Ledger.core, hroots, RootStore.view, mainnet, rollup]
    · rw [store] at hd
      rw [core, hroots]
      exact ((known d).1 hd).imp_right fun heq => ⟨o.roots, holds, heq⟩
    · rw [core]
      refine (tells p hp).imp_right ?_
      rintro rfl
      exact holds
    · rw [core] at hp
      rw [store]
      exact (known _).2 (.inr (congrArg _ (Option.some.inj (hp.symm.trans holds))))

/-- Folding in a rollup's exit root is refused only by a replica, for a rollup that is not tracked,
    or when there is no room for a new global exit root. -/
theorem updateRollupExitRoot_eq_error {index : UInt32} {root : Digest} {e : LedgerError}
    (h : updateRollupExitRoot D index root block s = .error e s') :
    (s.ledger.roots.isAuthority = false ∨ maxTrackedRollups ≤ index.toNat ∨
      s.ledger.roots.canPublish = false) ∧ s' = s := by
  simp only [updateRollupExitRoot, bind_eq_error, ledger_eq_error, ledger_eq_ok, false_or] at h
  obtain ⟨_, _, ⟨rfl, rfl⟩, h⟩ := h
  cases hroots : s.ledger.roots with
  | replica r =>
    rw [hroots] at h
    exact ⟨.inl rfl, (throw_eq_error.1 h).2.symm⟩
  | authority a =>
    simp only [hroots, bind_eq_error, ofResult_eq_error, change_eq_error, pure_eq_error,
      announceOutcome_eq_error, and_false, exists_false, or_false] at h
    obtain ⟨hrefused, rfl⟩ := h
    refine ⟨.inr ?_, rfl⟩
    rcases Nat.lt_or_ge index.toNat maxTrackedRollups with tracked | beyond
    · refine .inr (Bool.eq_false_iff.2 fun room => ?_)
      obtain ⟨_, hupdate⟩ := RootAuthority.exists_updateRollup D.hasher block root tracked
        (show a.l1InfoTree.isFull = false by simpa [RootStore.canPublish] using room)
      rw [hupdate] at hrefused
      cases hrefused
    · exact .inl beyond

theorem exists_updateRollupExitRoot {a : RootAuthority} {index : UInt32} (root : Digest)
    (block : BlockContext) (authority : s.ledger.roots = .authority a)
    (room : a.l1InfoTree.isFull = false) (tracked : index.toNat < maxTrackedRollups) :
    ∃ told s' a', updateRollupExitRoot D index root block s = .ok told s' ∧
      s'.ledger.roots = .authority a' ∧ a'.rollups.get? index = some root ∧
      a'.isKnown (GlobalExitRoot.hash D.hasher ⟨a'.mainnetExitRoot, a'.rollupExitRoot⟩) = true ∧
      s'.ledger.emergency = s.ledger.emergency := by
  cases h : updateRollupExitRoot D index root block s with
  | error e s' =>
    obtain ⟨refused, -⟩ := updateRollupExitRoot_eq_error h
    simp only [authority, RootStore.isAuthority, RootStore.canPublish, room] at refused
    exact absurd refused (by simpa using tracked)
  | ok told s' =>
    obtain ⟨-, rollups, set, core, -, known⟩ := updateRollupExitRoot_eq_ok h
    have view := congrArg LedgerCore.roots core
    simp only [Ledger.core, authority] at view
    cases hroots : s'.ledger.roots with
    | replica r =>
      rw [hroots] at view
      cases congrArg RootView.isAuthority view
    | authority a' =>
      refine ⟨told, s', a', rfl, hroots, ?_, ?_, congrArg LedgerCore.emergency core⟩
      · have same : a'.rollups = rollups := by
          rw [hroots] at view
          exact congrArg RootView.rollups view
        rw [same]
        exact RollupRoots.get?_set set
      · have known := known ⟨a'.mainnetExitRoot, a'.rollupExitRoot⟩
        rw [Ledger.core, hroots] at known
        exact known rfl

/-! ## Emergency state -/

theorem activateEmergencyState_eq_ok {u : Unit}
    (h : activateEmergencyState s = .ok u s') :
    s'.ledger.core = { s.ledger.core with emergency := true } ∧
      ∀ {H : NodeHasher} {news : GlobalExitRoot → Prop}, s.ledger.Learns H news s'.ledger := by
  simp only [activateEmergencyState, bind_eq_ok, ledger_eq_ok, require_eq_ok, change_eq_ok,
    emit_eq_ok] at h
  obtain ⟨_, _, ⟨rfl, rfl⟩, _, _, ⟨-, rfl⟩, _, _, rfl, rfl⟩ := h
  exact ⟨rfl, .of_push (by simp) rfl rfl⟩

theorem deactivateEmergencyState_eq_ok {u : Unit}
    (h : deactivateEmergencyState s = .ok u s') :
    s'.ledger.core = { s.ledger.core with emergency := false } ∧
      ∀ {H : NodeHasher} {news : GlobalExitRoot → Prop}, s.ledger.Learns H news s'.ledger := by
  simp only [deactivateEmergencyState, bind_eq_ok, ledger_eq_ok, require_eq_ok, change_eq_ok,
    emit_eq_ok] at h
  obtain ⟨_, _, ⟨rfl, rfl⟩, _, _, ⟨-, rfl⟩, _, _, rfl, rfl⟩ := h
  exact ⟨rfl, .of_push (by simp) rfl rfl⟩

theorem activateEmergencyState_eq_error {e : LedgerError}
    (h : activateEmergencyState s = .error e s') : s' = s := by
  simp only [activateEmergencyState, bind_eq_error, ledger_eq_error, ledger_eq_ok,
    require_eq_error, change_eq_error, emit_eq_error] at h
  grind

theorem deactivateEmergencyState_eq_error {e : LedgerError}
    (h : deactivateEmergencyState s = .error e s') : s' = s := by
  simp only [deactivateEmergencyState, bind_eq_error, ledger_eq_error, ledger_eq_ok,
    require_eq_error, change_eq_error, emit_eq_error] at h
  grind

end ExitBridge
