/-
  The emergency state, in the journal and in what it stops.

  The journal tells when the emergency state begins and ends, so the flag can be read off it.
  Deposits and claims ask for the flag before anything else, and nothing but them moves value or
  touches tree, marks, registry and host. What feeds the store of global exit roots never asks.

  * `Event.switch?`, `Journal.Alternates`: begins and ends take turns, and the flag is the last.
  * `Journal.Calm`: between a begin and the next end no event tells of value.
  * `Ledger.Frozen`: nothing that holds value has changed since, unless the state has ended.
  * `LedgerM.IgnoresEmergency`: an operation that neither reads nor changes the flag, one rule for
    each way to make one.
  * `emergency_freezes_value`: over all sessions whose journal keeps all events.
-/
import ExitBridge.Proofs.Execution.Book
import ExitBridge.Proofs.Ledger.Session

namespace ExitBridge

open LedgerM

/-! ## Events -/

namespace Event

/-- The emergency state that an event begins, or ends. -/
def switch? : Event → Option Bool
  | emergencyStateActivated => some true
  | emergencyStateDeactivated => some false
  | _ => none

/-- Events of deposits, claims and new wrapped tokens. -/
def movesValue : Event → Bool
  | bridge _ | claim _ | newWrappedToken _ => true
  | _ => false

end Event

/-- The begins and ends among events, oldest first. -/
def switchesIn (events : List Event) : List Bool := events.filterMap Event.switch?

/-- Begins and ends take turns, a begin first. -/
def TakeTurns (switches : List Bool) : Prop :=
  ∀ i b, switches[i]? = some b → b = (i % 2 == 0)

/-- Begins and ends take turns, and the emergency state is on exactly if the last one is a begin. -/
structure Journal.Alternates (j : Journal) (emergency : Bool) : Prop where
  turns : TakeTurns (switchesIn j.events.toList)
  last : emergency = true ↔ (switchesIn j.events.toList).getLast? = some true

/-- Between a begin and the next end no event tells of value. -/
def Journal.Calm (j : Journal) : Prop :=
  ∀ before middle after,
    j.events.toList = before ++ .emergencyStateActivated :: (middle ++ after) →
    .emergencyStateDeactivated ∉ middle → ∀ e ∈ middle, e.movesValue = false

/-! ## Moves -/

namespace Move

/-- The emergency state that a move begins, or ends. -/
def switch? : Move → Option Bool
  | toggle emergency => some emergency
  | _ => none

/-- Moves of deposits, claims and new wrapped tokens. -/
def movesValue : Move → Bool
  | append _ | register _ | mark _ _ => true
  | _ => false

theorem switches_events (m : Move) : m.events.filterMap Event.switch? = m.switch?.toList := by
  cases m with
  | publish block outcome? => exact filterMap_events_publish (fun _ => rfl) block outcome?
  | fold index root block outcome =>
    exact filterMap_events_fold (fun _ => rfl) index root block outcome
  | toggle emergency => cases emergency <;> rfl
  | _ => rfl

theorem movesValue_of_mem_events {m : Move} (still : m.movesValue = false) :
    ∀ e ∈ m.events, e.movesValue = false := by
  intro e he
  cases m with
  | append | register | mark => cases still
  | learn => cases he
  | publish block outcome? =>
    obtain ⟨outcome, -, announced⟩ := Option.bind_eq_some_iff.1 (Option.mem_toList.1 he)
    obtain ⟨update, -, rfl⟩ := Option.map_eq_some_iff.1 announced
    rfl
  | fold index root block outcome =>
    obtain ⟨update, -, rfl⟩ := Option.map_eq_some_iff.1 (Option.mem_toList.1 he)
    rfl
  | toggle emergency =>
    cases emergency with
    | true =>
      obtain rfl := List.mem_singleton.1 he
      rfl
    | false =>
      obtain rfl := List.mem_singleton.1 he
      rfl

end Move

/-! ## Turns -/

namespace TakeTurns

variable {switches : List Bool}

/-- It is a begin's turn after an even number. -/
theorem snoc (turns : TakeTurns switches) {b : Bool} (turn : b = (switches.length % 2 == 0)) :
    TakeTurns (switches ++ [b]) := by
  intro i b' hi
  rw [List.getElem?_append] at hi
  split at hi
  · exact turns i b' hi
  · rw [List.getElem?_singleton] at hi
    split at hi
    · obtain rfl := Option.some.inj hi
      obtain rfl : i = switches.length := by omega
      exact turn
    · cases hi

/-- The last is a begin exactly after an odd number. -/
theorem getLast?_eq_true (turns : TakeTurns switches) :
    switches.getLast? = some true ↔ switches.length % 2 = 1 := by
  rw [List.getLast?_eq_getElem?]
  cases switches with
  | nil => simp
  | cons b rest =>
    rw [List.length_cons, Nat.add_sub_cancel]
    obtain ⟨last, hlast⟩ : ∃ last, (b :: rest)[rest.length]? = some last :=
      ⟨_, List.getElem?_eq_getElem (by simp)⟩
    rw [hlast, turns _ _ hlast, Option.some.injEq, beq_iff_eq]
    omega

end TakeTurns

namespace Ledger

variable {D : Deployment} {l l' : Ledger} {m : Move} {moves : List Move}

theorem Moves.switches (h : l.Moves D m l') (unbounded : l.journal.retention = none) :
    switchesIn l'.journal.events.toList =
      switchesIn l.journal.events.toList ++ m.switch?.toList := by
  rw [h.journal, Journal.toList_pushAll unbounded, switchesIn, List.filterMap_append,
    m.switches_events]
  rfl

/-- A move begins the emergency state when it is off, and ends it when it is on. -/
theorem Moves.alternates (h : l.Moves D m l') (unbounded : l.journal.retention = none)
    (alternates : l.journal.Alternates l.emergency) : l'.journal.Alternates l'.emergency := by
  have switches := h.switches unbounded
  cases hswitch : m.switch? with
  | none =>
    have flag : l'.emergency = l.emergency := by
      cases h with
      | toggle => cases hswitch
      | _ => rfl
    rw [hswitch, Option.toList_none, List.append_nil] at switches
    exact ⟨switches ▸ alternates.turns, by rw [flag, switches, alternates.last]⟩
  | some b =>
    have flag : l'.emergency = b ∧ l.emergency = !b := by
      cases h with
      | toggle was =>
        obtain rfl := Option.some.inj hswitch
        exact ⟨rfl, was⟩
      | _ => cases hswitch
    rw [hswitch, Option.toList_some] at switches
    have parity := alternates.last.trans alternates.turns.getLast?_eq_true
    rw [flag.2] at parity
    have turn : b = ((switchesIn l.journal.events.toList).length % 2 == 0) := by
      cases b with
      | true => simpa using parity
      | false => simpa using parity
    exact ⟨switches ▸ alternates.turns.snoc turn, by rw [flag.1, switches]; simp⟩

theorem Moves.keeps_value (h : l.Moves D m l') (still : m.movesValue = false) :
    l'.tree = l.tree ∧ l'.claimed = l.claimed ∧ l'.wrapped = l.wrapped := by
  cases h with
  | append | register | mark => cases still
  | _ => exact ⟨rfl, rfl, rfl⟩

theorem Chain.keeps_value (h : l.Chain D moves l') (still : ∀ m ∈ moves, m.movesValue = false) :
    l'.tree = l.tree ∧ l'.claimed = l.claimed ∧ l'.wrapped = l.wrapped := by
  refine h.preserves (P := fun l' => l'.tree = l.tree ∧ l'.claimed = l.claimed ∧
    l'.wrapped = l.wrapped) ?_ ⟨rfl, rfl, rfl⟩
  rintro l₁ l₂ m hm moved ⟨tree, claimed, wrapped⟩
  obtain ⟨tree', claimed', wrapped'⟩ := moved.keeps_value (still m hm)
  exact ⟨tree'.trans tree, claimed'.trans claimed, wrapped'.trans wrapped⟩

theorem Chain.emergency (h : l.Chain D moves l') (on : ∀ m ∈ moves, m.switch? ≠ some false)
    (emergency : l.emergency = true) : l'.emergency = true := by
  refine h.preserves (P := fun l' => l'.emergency = true) ?_ emergency
  intro l₁ l₂ m hm moved was
  cases moved with
  | @toggle b =>
    cases b with
    | true => rfl
    | false => exact absurd rfl (on _ hm)
  | _ => exact was

end Ledger

/-! ## Calls -/

namespace Call

/-- Deposits and claims, which are refused in the emergency state. -/
def guarded : Call → Bool
  | bridgeAsset .. | bridgeMessage .. | bridgeMessageWeth .. | claim .. => true
  | _ => false

/-- Calls that feed the store of global exit roots. -/
def feeds : Call → Bool
  | updateGlobalExitRoot .. | updateRollupExitRoot .. | importGlobalExitRoot ..
  | ingestPeerEvents .. => true
  | _ => false

variable {σ : Type} [ExecutionHost σ] {D : Deployment} {s s' : BridgeState σ} {call : Call}

/-- **In the emergency state** a deposit or claim is refused for that, whatever else is wrong with
    it. -/
theorem run_of_emergency (emergency : s.ledger.emergency = true) (guarded : call.guarded = true) :
    call.run D s = .error .onlyNotEmergencyState s := by
  have refused {α : Type} {rest : Unit → LedgerM σ α} :
      (requireOperational >>= rest) s = .error .onlyNotEmergencyState s :=
    bind_eq_error.2 (.inl (requireOperational_eq_error.2 ⟨emergency, rfl, rfl⟩))
  cases call with
  | bridgeAsset sender d block => exact map_eq_error.2 refused
  | bridgeMessage sender d block => exact map_eq_error.2 refused
  | bridgeMessageWeth sender d amount block => exact map_eq_error.2 refused
  | claim kind c =>
    have unadmitted (kind : LeafKind) :
        admitClaim D kind c s = .error .onlyNotEmergencyState s := refused
    cases kind with
    | asset => exact map_eq_error.2 (bind_eq_error.2 (.inl (unadmitted .asset)))
    | message => exact map_eq_error.2 (bind_eq_error.2 (.inl (unadmitted .message)))
  | _ => cases guarded

theorem eq_of_error_of_not_guarded {e : LedgerError} (h : call.run D s = .error e s')
    (other : call.guarded = false) : s' = s := by
  cases call with
  | updateGlobalExitRoot block => exact (publishLocalRoot_eq_error (map_eq_error.1 h)).2
  | updateRollupExitRoot index root block =>
    exact (updateRollupExitRoot_eq_error (map_eq_error.1 h)).2
  | importGlobalExitRoot roots timestamp =>
    exact (importGlobalExitRoot_eq_error (map_eq_error.1 h)).2
  | ingestPeerEvents batch => exact (ingestEvents_eq_error (map_eq_error.1 h)).2
  | activateEmergencyState => exact activateEmergencyState_eq_error (map_eq_error.1 h)
  | deactivateEmergencyState => exact deactivateEmergencyState_eq_error (map_eq_error.1 h)
  | _ => cases other

/-- A call moves no value, or begins and ends nothing, out of the emergency state. -/
theorem Makes.still_or_operational {answer : Answer} {moves : List Move} {host : σ}
    (h : call.Makes D s answer moves host) :
    host = s.host ∧ (∀ m ∈ moves, m.movesValue = false) ∨
      s.ledger.emergency = false ∧ ∀ m ∈ moves, m.switch? = none := by
  cases h with
  | deposit deposits => exact .inr ⟨deposits.operational, by simp [Move.switch?]⟩
  | depositPublished deposits => exact .inr ⟨deposits.operational, by simp [Move.switch?]⟩
  | @claim kind c receipt key host honours =>
    refine .inr ⟨honours.operational, ?_⟩
    rw [Claim.moves]
    cases receipt.newWrappedToken <;> simp [Move.switch?]
  | ingest =>
    refine .inl ⟨rfl, fun m hm => ?_⟩
    obtain ⟨roots, timestamp, rfl⟩ := Move.exists_of_mem_lessons hm
    rfl
  | _ => exact .inl ⟨rfl, by simp [Move.movesValue]⟩

end Call

/-! ## Steps -/

/-- Nothing that holds value has changed, and the journal has told of no value. -/
structure Ledger.Frozen (l : Ledger) (events : List Event) (l' : Ledger) : Prop where
  emergency : l'.emergency = true
  tree : l'.tree = l.tree
  claimed : l'.claimed = l.claimed
  wrapped : l'.wrapped = l.wrapped
  silent : ∀ e ∈ events, e.movesValue = false

/-- Unless the emergency state has ended since, all is frozen. -/
def Ledger.Freezes (l l' : Ledger) : Prop :=
  ∃ events, l'.journal.events.toList = l.journal.events.toList ++ events ∧
    (l.emergency = true → .emergencyStateDeactivated ∉ events → l.Frozen events l')

theorem Ledger.Freezes.trans {l l₁ l' : Ledger} (h : l.Freezes l₁) (h' : l₁.Freezes l') :
    l.Freezes l' := by
  obtain ⟨events, journal, frozen⟩ := h
  obtain ⟨events', journal', frozen'⟩ := h'
  refine ⟨events ++ events', by rw [journal', journal, List.append_assoc], ?_⟩
  intro emergency on
  rw [List.mem_append, not_or] at on
  have first := frozen emergency on.1
  have second := frozen' first.emergency on.2
  refine ⟨second.emergency, second.tree.trans first.tree, second.claimed.trans first.claimed,
    second.wrapped.trans first.wrapped, ?_⟩
  intro e he
  rcases List.mem_append.1 he with he | he
  · exact first.silent e he
  · exact second.silent e he

/-- Nothing that holds value has changed, the host included. -/
structure BridgeState.SameValue {σ : Type} (s s' : BridgeState σ) : Prop where
  tree : s'.ledger.tree = s.ledger.tree
  claimed : s'.ledger.claimed = s.ledger.claimed
  wrapped : s'.ledger.wrapped = s.ledger.wrapped
  host : s'.host = s.host

namespace Step

variable {σ : Type} [ExecutionHost σ] {D : Deployment} {m : Step σ}

/-- **In the emergency state no call** changes anything that holds value. -/
theorem sameValue_of_emergency (emergency : m.before.ledger.emergency = true) :
    m.before.SameValue (m.after D) := by
  obtain ⟨moves, chain, ⟨answer, -, makes⟩ | ⟨⟨e, refused⟩, -⟩⟩ := m.exists_chain D
  · rcases makes.still_or_operational with ⟨host, still⟩ | ⟨operational, -⟩
    · obtain ⟨tree, claimed, wrapped⟩ := chain.keeps_value still
      exact ⟨tree, claimed, wrapped, host⟩
    · cases emergency.symm.trans operational
  · have failed := answer_eq_error.1 refused
    have same : m.after D = m.before := by
      cases guarded : m.call.guarded with
      | true => rw [after, Call.run_of_emergency emergency guarded]
      | false => exact Call.eq_of_error_of_not_guarded failed guarded
    rw [same]
    exact ⟨rfl, rfl, rfl, rfl⟩

/-- A step freezes what it met, unless it ends the emergency state. -/
theorem freezes (unbounded : m.before.ledger.journal.retention = none) :
    m.before.ledger.Freezes (m.after D).ledger := by
  obtain ⟨moves, chain, made⟩ := m.exists_chain D
  refine ⟨moves.flatMap Move.events, by rw [chain.journal, Journal.toList_pushAll unbounded], ?_⟩
  intro emergency on
  have still : ∀ x ∈ moves, x.movesValue = false := by
    rcases made with ⟨answer, -, makes⟩ | ⟨-, rfl⟩
    · rcases makes.still_or_operational with ⟨-, still⟩ | ⟨operational, -⟩
      · exact still
      · cases emergency.symm.trans operational
    · simp
  obtain ⟨tree, claimed, wrapped⟩ := chain.keeps_value still
  refine ⟨chain.emergency ?_ emergency, tree, claimed, wrapped, ?_⟩
  · intro x hx ends
    cases x with
    | toggle b =>
      obtain rfl := Option.some.inj ends
      exact on (List.mem_flatMap.2 ⟨_, hx, List.mem_singleton_self _⟩)
    | _ => cases ends
  · intro e he
    obtain ⟨x, hx, he⟩ := List.mem_flatMap.1 he
    exact Move.movesValue_of_mem_events (still x hx) e he

end Step

/-! ## Calm journals -/

/-- No event tells of value while the last begin or end before it is a begin. -/
def Hushed (events : List Event) : Prop :=
  ∀ before e after, events = before ++ e :: after → e.movesValue = true →
    (switchesIn before).getLast? ≠ some true

namespace Hushed

variable {events new : List Event}

theorem snoc (hushed : Hushed events) {e : Event}
    (h : e.movesValue = true → (switchesIn events).getLast? ≠ some true) :
    Hushed (events ++ [e]) := by
  intro before e' after split value
  rcases List.eq_nil_or_concat after with rfl | ⟨after, last, rfl⟩
  · obtain ⟨rfl, same⟩ := List.append_inj' split rfl
    obtain rfl := List.singleton_inj.1 same
    exact h value
  · have split' : events ++ [e] = (before ++ e' :: after) ++ [last] := by simpa using split
    exact hushed before e' after (List.append_inj' split' rfl).1 value

theorem append_of_silent (hushed : Hushed events) (silent : ∀ e ∈ new, e.movesValue = false) :
    Hushed (events ++ new) := by
  induction new generalizing events with
  | nil => rwa [List.append_nil]
  | cons e new ih =>
    rw [List.forall_mem_cons] at silent
    have next : Hushed (events ++ [e]) := by
      refine hushed.snoc fun value => ?_
      cases silent.1.symm.trans value
    rw [List.append_cons]
    exact ih next silent.2

theorem append_of_operational (hushed : Hushed events)
    (operational : (switchesIn events).getLast? ≠ some true) (none : switchesIn new = []) :
    Hushed (events ++ new) := by
  induction new generalizing events with
  | nil => rwa [List.append_nil]
  | cons e new ih =>
    rw [switchesIn, List.filterMap_eq_nil_iff, List.forall_mem_cons] at none
    have still : switchesIn (events ++ [e]) = switchesIn events := by
      rw [switchesIn, List.filterMap_append, List.filterMap_cons_none none.1]
      exact List.append_nil _
    rw [List.append_cons]
    exact ih (hushed.snoc fun _ => operational) (still ▸ operational)
      (List.filterMap_eq_nil_iff.2 none.2)

theorem calm {j : Journal} (hushed : Hushed j.events.toList) : j.Calm := by
  intro before middle after split on e he
  obtain ⟨earlier, later, rfl⟩ := List.append_of_mem he
  have begins : ∀ b ∈ switchesIn earlier, b = true := by
    intro b hb
    obtain ⟨x, hx, switches⟩ := List.mem_filterMap.1 hb
    cases x with
    | emergencyStateActivated => exact (Option.some.inj switches).symm
    | emergencyStateDeactivated => exact absurd (List.mem_append_left _ hx) on
    | _ => cases switches
  have last :
      (switchesIn (before ++ .emergencyStateActivated :: earlier)).getLast? = some true := by
    have parts : switchesIn (before ++ .emergencyStateActivated :: earlier) =
        switchesIn before ++ true :: switchesIn earlier := List.filterMap_append
    rw [parts, List.getLast?_append, List.getLast?_cons]
    cases hlast : (switchesIn earlier).getLast? with
    | none => rfl
    | some b =>
      obtain rfl := begins b (List.mem_of_getLast? hlast)
      rfl
  rw [← Bool.not_eq_true]
  intro value
  exact hushed (before ++ .emergencyStateActivated :: earlier) e (later ++ after)
    (by simpa using split) value last

end Hushed

theorem Step.hushed {σ : Type} [ExecutionHost σ] {D : Deployment} {m : Step σ}
    (unbounded : m.before.ledger.journal.retention = none)
    (alternates : m.before.ledger.journal.Alternates m.before.ledger.emergency)
    (hushed : Hushed m.before.ledger.journal.events.toList) :
    Hushed (m.after D).ledger.journal.events.toList := by
  obtain ⟨moves, chain, made⟩ := m.exists_chain D
  rw [chain.journal, Journal.toList_pushAll unbounded]
  have decided : (∀ x ∈ moves, x.movesValue = false) ∨
      m.before.ledger.emergency = false ∧ ∀ x ∈ moves, x.switch? = none := by
    rcases made with ⟨answer, -, makes⟩ | ⟨-, rfl⟩
    · exact makes.still_or_operational.imp_left And.right
    · exact .inl (by simp)
  rcases decided with still | ⟨operational, none⟩
  · refine hushed.append_of_silent fun e he => ?_
    obtain ⟨x, hx, he⟩ := List.mem_flatMap.1 he
    exact Move.movesValue_of_mem_events (still x hx) e he
  · refine hushed.append_of_operational ?_ ?_
    · rw [Ne, ← alternates.last, operational]
      exact Bool.false_ne_true
    · rw [switchesIn, List.filterMap_flatMap, List.flatMap_eq_nil_iff]
      intro x hx
      rw [Move.switches_events, none x hx]
      rfl

namespace Session

variable {σ : Type} [ExecutionHost σ] {D : Deployment} {handled : σ → σ → Prop}
  {past : List (Step σ)} {now : BridgeState σ}

theorem alternates (session : Session D handled past now)
    (unbounded : D.config.journalRetention = none) :
    now.ledger.journal.Alternates now.ledger.emergency := by
  refine (session.invariant (P := fun l => l.journal.retention = none ∧
    l.journal.Alternates l.emergency) ?_ ?_).2
  · refine ⟨by simp [Deployment.genesis, Journal.empty, unbounded], ?_, ?_⟩
    · intro i b hi
      cases hi
    · constructor <;> intro ends <;> cases ends
  · rintro l m l' moved ⟨unbounded, alternates⟩
    exact ⟨moved.chain.retention.trans unbounded, moved.alternates unbounded alternates⟩

theorem hushed (session : Session D handled past now)
    (unbounded : D.config.journalRetention = none) : Hushed now.ledger.journal.events.toList := by
  induction session with
  | start created =>
    rw [genesis_of_create created]
    intro before e after split
    simp [Deployment.genesis, Journal.empty] at split
  | call session ih =>
    exact Step.hushed (session.retention_journal unbounded) (session.alternates unbounded) ih
  | host _ _ ih => exact ih

end Session

/-! ## Operations that ignore the emergency state -/

/-- The same state, with the emergency state on or off. -/
def BridgeState.withEmergency {σ : Type} (s : BridgeState σ) (emergency : Bool) : BridgeState σ :=
  { s with ledger := { s.ledger with emergency := emergency } }

namespace LedgerM

variable {σ α β : Type}

/-- An operation neither reads nor changes the flag: with the flag on or off, it ends the same way
    and changes the rest the same way. -/
def IgnoresEmergency (x : LedgerM σ α) : Prop :=
  ∀ s emergency, x (s.withEmergency emergency) = match x s with
    | .ok a s' => .ok a (s'.withEmergency emergency)
    | .error e s' => .error e (s'.withEmergency emergency)

namespace IgnoresEmergency

variable {x : LedgerM σ α}

theorem pure (a : α) : IgnoresEmergency (pure a : LedgerM σ α) := fun _ _ => rfl

theorem throw (e : LedgerError) : IgnoresEmergency (throw e : LedgerM σ α) := fun _ _ => rfl

theorem bind {f : α → LedgerM σ β} (h : IgnoresEmergency x) (h' : ∀ a, IgnoresEmergency (f a)) :
    IgnoresEmergency (x >>= f) := by
  intro s emergency
  show EStateM.bind x f _ = match EStateM.bind x f s with
    | .ok a s' => .ok a (s'.withEmergency emergency)
    | .error e s' => .error e (s'.withEmergency emergency)
  rw [EStateM.bind, EStateM.bind, h s emergency]
  cases x s with
  | ok a s' => exact h' a s' emergency
  | error e s' => rfl

theorem map {f : α → β} (h : IgnoresEmergency x) : IgnoresEmergency (f <$> x) := by
  intro s emergency
  show EStateM.map f x _ = match EStateM.map f x s with
    | .ok a s' => .ok a (s'.withEmergency emergency)
    | .error e s' => .error e (s'.withEmergency emergency)
  rw [EStateM.map, EStateM.map, h s emergency]
  cases x s with
  | ok a s' => rfl
  | error e s' => rfl

theorem ofResult (r : Except LedgerError α) : IgnoresEmergency (ofResult r : LedgerM σ α) := by
  intro s emergency
  cases r with
  | ok a => rfl
  | error e => rfl

/-- What is read of the ledger is not the flag. -/
theorem ledger_bind {f : Ledger → LedgerM σ β} (h : ∀ l, IgnoresEmergency (f l))
    (same : ∀ l emergency, f { l with emergency := emergency } = f l) :
    IgnoresEmergency (ledger >>= f) := by
  intro s emergency
  have read : (ledger >>= f) (s.withEmergency emergency) = f s.ledger (s.withEmergency emergency) :=
    congrFun (same s.ledger emergency) _
  rw [read]
  exact h s.ledger s emergency

theorem change {f : Ledger → Ledger}
    (same : ∀ l emergency, f { l with emergency := emergency } =
      { f l with emergency := emergency }) : IgnoresEmergency (change f : LedgerM σ Unit) := by
  intro s emergency
  have written := same s.ledger emergency
  simp only [LedgerM.change, BridgeState.withEmergency, written]

theorem emit (e : Event) : IgnoresEmergency (emit e : LedgerM σ Unit) :=
  .change fun _ _ => rfl

end IgnoresEmergency

end LedgerM

section

variable {σ : Type} {D : Deployment}

theorem ignoresEmergency_announceOutcome (o : PublishOutcome) (block : BlockContext) :
    IgnoresEmergency (σ := σ) (announceOutcome o block) := by
  rw [announceOutcome]
  cases o.event? block with
  | some e => exact .emit e
  | none => exact .pure _

theorem ignoresEmergency_publishLocalRoot (block : BlockContext) :
    IgnoresEmergency (σ := σ) (publishLocalRoot D block) := by
  refine .ledger_bind (fun l => .bind (.ofResult _) fun r => .bind (.change fun _ _ => rfl)
    fun _ => ?_) fun _ _ => rfl
  cases r.1 with
  | none => exact .pure _
  | some outcome => exact .bind (ignoresEmergency_announceOutcome _ _) fun _ => .pure _

theorem ignoresEmergency_updateRollupExitRoot (index : UInt32) (root : Digest)
    (block : BlockContext) :
    IgnoresEmergency (σ := σ) (updateRollupExitRoot D index root block) := by
  refine .ledger_bind (fun l => ?_) fun _ _ => rfl
  cases l.roots with
  | replica r => exact .throw _
  | authority a =>
    exact .bind (.ofResult _) fun r => .bind (.change fun _ _ => rfl) fun _ =>
      .bind (ignoresEmergency_announceOutcome _ _) fun _ => .pure _

theorem ignoresEmergency_importGlobalExitRoot (roots : GlobalExitRoot) (timestamp : UInt64) :
    IgnoresEmergency (σ := σ) (importGlobalExitRoot D roots timestamp) := by
  refine .ledger_bind (fun l => ?_) fun _ _ => rfl
  cases l.roots with
  | authority a => exact .throw _
  | replica r => exact .bind (.change fun _ _ => rfl) fun _ => .pure _

theorem ignoresEmergency_ingestEvents (events : List Event) :
    IgnoresEmergency (σ := σ) (ingestEvents D events) := by
  fun_induction ingestEvents D events with
  | case1 => exact .pure _
  | case2 e rest ih =>
    exact .bind (ignoresEmergency_importGlobalExitRoot _ _) fun _ => .bind ih fun _ => .pure _
  | case3 event rest _ ih => exact ih

/-- **What feeds the store of global exit roots** neither reads nor changes the emergency state. -/
theorem Call.ignoresEmergency_of_feeds [ExecutionHost σ] {call : Call}
    (feeds : call.feeds = true) : IgnoresEmergency (call.run (σ := σ) D) := by
  cases call with
  | updateGlobalExitRoot block => exact (ignoresEmergency_publishLocalRoot block).map
  | updateRollupExitRoot index root block =>
    exact (ignoresEmergency_updateRollupExitRoot index root block).map
  | importGlobalExitRoot roots timestamp =>
    exact (ignoresEmergency_importGlobalExitRoot roots timestamp).map
  | ingestPeerEvents batch => exact (ignoresEmergency_ingestEvents _).map
  | _ => cases feeds

end

/-! ## Sessions -/

/-- **The emergency state freezes value, and the journal tells of it.** In any session whose journal
    keeps all events, its begins and ends take turns and the flag is the last of them, and in
    between no event tells of value. From any time on, unless the state ends, tree, marks and
    registry stay as they are. While it lasts, no call changes them or the host, and every deposit
    and claim is refused for it; what feeds the store of global exit roots goes on as without it. -/
theorem emergency_freezes_value {σ : Type} [ExecutionHost σ] {D : Deployment}
    {handled : σ → σ → Prop} {past : List (Step σ)} {now : BridgeState σ}
    (session : Session D handled past now) (unbounded : D.config.journalRetention = none) :
    now.ledger.journal.Alternates now.ledger.emergency ∧ now.ledger.journal.Calm ∧
    (ledgersOf past now).Pairwise Ledger.Freezes ∧
    (now.ledger.emergency = true → ∀ call : Call,
      now.SameValue ((⟨now, call⟩ : Step σ).after D) ∧
      (call.guarded = true → call.run D now = .error .onlyNotEmergencyState now)) ∧
    ∀ call : Call, call.feeds = true → IgnoresEmergency (call.run (σ := σ) D) := by
  refine ⟨session.alternates unbounded, (session.hushed unbounded).calm, ?_, ?_,
    fun call => Call.ignoresEmergency_of_feeds⟩
  · refine session.pairwise_ledgersOf_of_step Ledger.Freezes.trans fun earlier => ?_
    exact Step.freezes (earlier.retention_journal unbounded)
  · intro emergency call
    have still := Step.sameValue_of_emergency (D := D) (m := ⟨now, call⟩) emergency
    exact ⟨still, Call.run_of_emergency emergency⟩

/-- A ledger in the emergency state from its first call on: it refuses any message, and publishes
    its exit root as before. -/
theorem emergency_freezes_value_activated : ∃ (D : Deployment) (past : List (Step Book))
    (now : BridgeState Book), Session D Book.Handled past now ∧
      D.config.journalRetention = none ∧
      now.ledger.journal.events.toList = [.emergencyStateActivated] ∧
      now.ledger.journal.Alternates true ∧
      (∀ sender d block, (Call.bridgeMessage sender d block).run D now =
        .error .onlyNotEmergencyState now) ∧
      ∀ block, IgnoresEmergency ((Call.updateGlobalExitRoot block).run (σ := Book) D) := by
  let config := LedgerConfig.standard
  let D : Deployment :=
    ⟨.keccak, config, ⟨config.bridgeAddress, config.wrappedTokenTemplate, .ofSalt⟩, none⟩
  let m : Step Book :=
    ⟨⟨Deployment.genesis config, .empty config.bridgeAddress⟩, .activateEmergencyState⟩
  have start : Session D Book.Handled [] m.before :=
    .start (Deployment.create_of_validate (LedgerConfig.validate_authority 0 (by decide)) rfl)
  have session : Session D Book.Handled [m] (m.after D) := .call start
  obtain ⟨alternates, -, -, frozen, feeds⟩ := emergency_freezes_value session rfl
  refine ⟨D, [m], m.after D, session, rfl, rfl, alternates, ?_, fun block => feeds _ rfl⟩
  intro sender d block
  exact (frozen rfl (.bridgeMessage sender d block)).2 rfl

end ExitBridge
