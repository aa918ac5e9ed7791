/-
  A session honours at most one claim under each key.

  No property of the hash is used: a claim is refused when its key is marked, whatever it proves.

  * `Call.honoured?`, `Step.claim?`, `Step.HonoursUnder`: the claims that were honoured, and their
    keys.
  * `Claiming`: what the replay guard and the journal say of the claims honoured so far.
  * `claims_once`: over all sessions.
-/
import ExitBridge.Ledger.View
import ExitBridge.Proofs.GlobalIndex
import ExitBridge.Proofs.Network.Session
import ExitBridge.Proofs.Network.Soundness
import ExitBridge.Proofs.Result

namespace ExitBridge

/-! ## Claims in the journal -/

/-- The claim that an event tells of. -/
def Event.claim? : Event → Option ClaimEvent
  | claim e => some e
  | _ => none

/-- The claims that a journal tells of, oldest first. -/
def Journal.claims (j : Journal) : List ClaimEvent := j.events.toList.filterMap Event.claim?

/-- The key of the claim that an event tells of. -/
def ClaimEvent.key (mainnet : UInt32) (e : ClaimEvent) : Except LedgerError ScopeKey :=
  (GlobalIndex.parts e.globalIndex).scopeKey mainnet

@[simp] theorem Claim.key_event (mainnet : UInt32) (c : Claim) :
    c.event.key mainnet = c.globalIndex.scopeKey mainnet := by
  rw [ClaimEvent.key, Claim.event, GlobalIndex.parts_pack]

/-! ## Moves -/

/-- The claim that a move marks. -/
def Move.marks? : Move → Option (ScopeKey × ClaimEvent)
  | mark key e => some (key, e)
  | _ => none

theorem Ledger.Moves.isClaimed {D : Deployment} {l l' : Ledger} {m : Move} {key : ScopeKey}
    (h : l.Moves D m l') : l'.claimed.isClaimed key = true ↔
      l.claimed.isClaimed key = true ∨ m.marks?.map Prod.fst = some key := by
  cases h with
  | mark marked =>
    rw [ReplayGuard.isClaimed_mark marked, Move.marks?, Option.map_some, Option.some.injEq,
      @eq_comm _ key]
  | _ => simp [Move.marks?]

theorem Move.claims_events (m : Move) :
    m.events.filterMap Event.claim? = (m.marks?.map Prod.snd).toList := by
  cases m with
  | publish block outcome? => exact filterMap_events_publish (fun _ => rfl) block outcome?
  | fold index root block outcome =>
    exact filterMap_events_fold (fun _ => rfl) index root block outcome
  | toggle emergency => cases emergency <;> rfl
  | _ => rfl

namespace Ledger.Chain

variable {D : Deployment} {l l' : Ledger} {moves : List Move}

theorem isClaimed (h : l.Chain D moves l') (key : ScopeKey) : l'.claimed.isClaimed key = true ↔
    l.claimed.isClaimed key = true ∨ key ∈ (moves.filterMap Move.marks?).map Prod.fst := by
  refine (h.collects Moves.isClaimed).trans (or_congr_right ?_)
  simp only [List.mem_map, List.mem_filterMap, Option.map_eq_some_iff]
  constructor
  · rintro ⟨m, hm, marked, hmarked, hkey⟩
    exact ⟨marked, ⟨m, hm, hmarked⟩, hkey⟩
  · rintro ⟨marked, ⟨m, hm, hmarked⟩, hkey⟩
    exact ⟨m, hm, marked, hmarked, hkey⟩

theorem claims (h : l.Chain D moves l') (unbounded : l.journal.retention = none) :
    l'.journal.claims = l.journal.claims ++ (moves.filterMap Move.marks?).map Prod.snd := by
  rw [List.map_filterMap]
  exact h.filterMap_events unbounded Move.claims_events

end Ledger.Chain

/-! ## Calls -/

/-- The claim that a call makes, if its answer says that it is honoured. -/
def Call.honoured? (call : Call) : Answer → Option (LeafKind × Claim)
  | .claim _ => call.claim?
  | _ => none

section

variable {σ : Type} [ExecutionHost σ] {D : Deployment} {s : BridgeState σ} {host : σ}
  {call : Call} {answer : Answer} {moves : List Move}

/-- A call marks the claim that it honours, under a key that was free, and no other. -/
theorem Call.Makes.marks (h : call.Makes D s answer moves host) :
    (∃ kind c key, call.honoured? answer = some (kind, c) ∧
      c.globalIndex.scopeKey D.config.mainnetNetworkId = .ok key ∧
      s.ledger.claimed.isClaimed key = false ∧
      moves.filterMap Move.marks? = [(key, c.event)]) ∨
    call.honoured? answer = none ∧ moves.filterMap Move.marks? = [] := by
  cases h with
  | @claim kind c receipt key host honours =>
    have scope := (verifyClaim_eq_ok.1 honours.verified).2.2.2
    refine .inl ⟨kind, c, key, rfl, scope, honours.free, ?_⟩
    rw [Claim.moves, List.filterMap_append]
    cases receipt.newWrappedToken <;> rfl
  | ingest => exact .inr ⟨rfl, Move.filterMap_lessons (fun _ _ => rfl) _⟩
  | _ => exact .inr ⟨rfl, rfl⟩

end

/-! ## Steps -/

variable {σ : Type} [ExecutionHost σ] {D : Deployment} {handled : σ → σ → Prop}
  {past : List (Step σ)} {now : BridgeState σ}

/-- The claim that was honoured. -/
def Step.claim? (D : Deployment) (m : Step σ) : Option (LeafKind × Claim) :=
  match m.answer D with
  | .ok answer => m.call.honoured? answer
  | .error _ => none

/-- A claim was honoured, and this is its key. -/
def Step.HonoursUnder (D : Deployment) (m : Step σ) (key : ScopeKey) : Prop :=
  ∃ kind c, m.claim? D = some (kind, c) ∧
    c.globalIndex.scopeKey D.config.mainnetNetworkId = .ok key

/-- The replay guard has marked the keys of the claims honoured so far, no two of them under one
    key, and a journal that keeps all events tells of these claims in turn. -/
structure Claiming (D : Deployment) (past : List (Step σ)) (l : Ledger) : Prop where
  once : past.Pairwise fun m m' => ∀ key, m.HonoursUnder D key → ¬ m'.HonoursUnder D key
  isClaimed : ∀ key, l.claimed.isClaimed key = true ↔ ∃ m ∈ past, m.HonoursUnder D key
  keyed : ∀ m ∈ past, (m.claim? D).isSome = true → ∃ key, m.HonoursUnder D key
  told : l.journal.retention = none →
    l.journal.claims = (past.filterMap (·.claim? D)).map (·.2.event)

/-- The moves of a step mark the claim that it honours, under a key that was free, and no other. -/
structure Step.Marks (D : Deployment) (m : Step σ) (key? : Option ScopeKey) (moves : List Move) :
    Prop where
  chain : m.before.ledger.Chain D moves (m.after D).ledger
  under : ∀ key, m.HonoursUnder D key ↔ key? = some key
  free : ∀ key, key? = some key → m.before.ledger.claimed.isClaimed key = false
  keyed : (m.claim? D).isSome = key?.isSome
  keys : (moves.filterMap Move.marks?).map Prod.fst = key?.toList
  told : (moves.filterMap Move.marks?).map Prod.snd =
    ((m.claim? D).map (·.2.event)).toList

theorem Step.exists_marks (D : Deployment) (m : Step σ) : ∃ key? moves, m.Marks D key? moves := by
  obtain ⟨moves, chain, step⟩ := m.exists_chain D
  have marks : (∃ kind c key, m.claim? D = some (kind, c) ∧
        c.globalIndex.scopeKey D.config.mainnetNetworkId = .ok key ∧
        m.before.ledger.claimed.isClaimed key = false ∧
        moves.filterMap Move.marks? = [(key, c.event)]) ∨
      m.claim? D = none ∧ moves.filterMap Move.marks? = [] := by
    rcases step with ⟨answer, answered, makes⟩ | ⟨⟨e, refused⟩, rfl⟩
    · rw [Step.claim?, answered]
      exact makes.marks
    · exact .inr ⟨by rw [Step.claim?, refused], rfl⟩
  rcases marks with ⟨kind, c, key, hclaim, scope, free, marks⟩ | ⟨hclaim, marks⟩
  · refine ⟨some key, moves, chain, fun key' => ?_, ?_, ?_, ?_, ?_⟩
    · constructor
      · rintro ⟨_, _, hclaim', scope'⟩
        obtain ⟨rfl, rfl⟩ := Prod.mk.inj (Option.some.inj (hclaim.symm.trans hclaim'))
        exact congrArg some (Except.ok.inj (scope.symm.trans scope'))
      · rintro ⟨⟩
        exact ⟨kind, c, hclaim, scope⟩
    · rintro _ ⟨⟩
      exact free
    · rw [hclaim]
      rfl
    · rw [marks]
      rfl
    · rw [marks, hclaim]
      rfl
  · refine ⟨none, moves, chain, fun key => ⟨?_, nofun⟩, nofun, ?_, ?_, ?_⟩
    · rintro ⟨_, _, hclaim', -⟩
      exact absurd (hclaim.symm.trans hclaim') nofun
    · rw [hclaim]
      rfl
    · rw [marks]
      rfl
    · rw [marks, hclaim]
      rfl

theorem Step.claiming {m : Step σ} (h : Claiming D past m.before.ledger) :
    Claiming D (past ++ [m]) (m.after D).ledger := by
  obtain ⟨key?, moves, marks⟩ := m.exists_marks D
  refine ⟨?_, fun key => ?_, fun m₀ hm₀ claimed => ?_, fun unbounded => ?_⟩
  · refine List.pairwise_append.2 ⟨h.once, List.pairwise_singleton _ _, ?_⟩
    rintro m₀ hm₀ _ hm key old new
    obtain rfl := List.mem_singleton.1 hm
    -- the key would have been marked before
    have free := marks.free key ((marks.under key).1 new)
    rw [(h.isClaimed key).2 ⟨m₀, hm₀, old⟩] at free
    cases free
  · rw [marks.chain.isClaimed, h.isClaimed, marks.keys, Option.mem_toList, ← marks.under]
    simp [or_and_right, exists_or]
  · rcases List.mem_append.1 hm₀ with old | new
    · exact h.keyed m₀ old claimed
    · obtain rfl := List.mem_singleton.1 new
      obtain ⟨key, hkey⟩ := Option.isSome_iff_exists.1 (marks.keyed.symm.trans claimed)
      exact ⟨key, (marks.under key).2 hkey⟩
  · have before := marks.chain.retention.symm.trans unbounded
    rw [marks.chain.claims before, h.told before, marks.told, List.filterMap_append,
      List.map_append]
    cases h : m.claim? D <;> simp [h]

theorem Session.claiming (session : Session D handled past now) :
    Claiming D past now.ledger := by
  induction session with
  | start created =>
    rw [genesis_of_create created]
    exact ⟨List.Pairwise.nil, by simp [Deployment.genesis], by simp,
      by simp [Deployment.genesis, Journal.claims, Journal.empty]⟩
  | call _ ih => exact Step.claiming ih
  | host _ _ ih => exact ih

/-! ## At most once -/

theorem Ledger.isClaimedGlobal_eq_true {l : Ledger} {g : GlobalIndex} :
    l.isClaimedGlobal D g = .ok true ↔ ∃ key,
      g.scopeKey D.config.mainnetNetworkId = .ok key ∧ l.claimed.isClaimed key = true := by
  rw [isClaimedGlobal, except_bind_eq_ok]
  simp [pure, Except.pure]

/-- **At most one claim is honoured under each key,** whatever calls are made in whatever order. A
    key stands for a flag, a source network and a leaf index. An index is claimed exactly when a
    claim has been honoured under its key; it stays claimed; a call that fails claims nothing; and
    a journal that keeps all events tells of the honoured claims, in turn, under different keys. -/
theorem claims_once (session : Session D handled past now) :
    (∀ (g g' : GlobalIndex) key, g.scopeKey D.config.mainnetNetworkId = .ok key →
      (g'.scopeKey D.config.mainnetNetworkId = .ok key ↔ g.mainnetFlag = g'.mainnetFlag ∧
        g.source D.config.mainnetNetworkId = g'.source D.config.mainnetNetworkId ∧
        g.leafIndex = g'.leafIndex)) ∧
    (past.Pairwise fun m m' => ∀ key, m.HonoursUnder D key → ¬ m'.HonoursUnder D key) ∧
    (∀ m ∈ past, (m.claim? D).isSome = true → ∃ key, m.HonoursUnder D key) ∧
    (∀ g, now.ledger.isClaimedGlobal D g = .ok true ↔
      ∃ key, g.scopeKey D.config.mainnetNetworkId = .ok key ∧
        ∃ m ∈ past, m.HonoursUnder D key) ∧
    ((ledgersOf past now).Pairwise fun l l' => ∀ g, l.isClaimedGlobal D g = .ok true →
      l'.isClaimedGlobal D g = .ok true) ∧
    (∀ m ∈ past, ∀ e, m.answer D = .error e → ∀ g,
      (m.after D).ledger.isClaimedGlobal D g = m.before.ledger.isClaimedGlobal D g) ∧
    (D.config.journalRetention = none →
      now.ledger.journal.claims = (past.filterMap (·.claim? D)).map (·.2.event) ∧
      (now.ledger.journal.claims.map (·.key D.config.mainnetNetworkId)).Nodup) := by
  have claiming := session.claiming
  refine ⟨fun _ _ _ => GlobalIndex.scopeKey_eq_ok_iff, claiming.once, claiming.keyed,
    fun g => ?_, ?_, fun m _ e refused g => ?_, fun unbounded => ?_⟩
  · simp only [Ledger.isClaimedGlobal_eq_true, claiming.isClaimed]
  · refine session.pairwise_ledgersOf (fun _ _ h => h) (fun h h' g hg => h' g (h g hg)) ?_
    intro l m l' moved g hg
    obtain ⟨key, hkey, marked⟩ := Ledger.isClaimedGlobal_eq_true.1 hg
    exact Ledger.isClaimedGlobal_eq_true.2 ⟨key, hkey, moved.isClaimed.2 (.inl marked)⟩
  · rw [Step.ledger_of_error refused]
  · have told := claiming.told (session.retention_journal unbounded)
    refine ⟨told, ?_⟩
    rw [told, List.Nodup, List.pairwise_map, List.pairwise_map, List.pairwise_filterMap]
    refine claiming.once.imp_of_mem ?_
    rintro m m' hm - apart ⟨kind, c⟩ hclaim ⟨kind', c'⟩ hclaim' same
    rw [Claim.key_event, Claim.key_event] at same
    have honoured : (m.claim? D).isSome = true := by rw [hclaim, Option.isSome_some]
    obtain ⟨key, kind₁, c₁, hclaim₁, scope⟩ := claiming.keyed m hm honoured
    obtain ⟨rfl, rfl⟩ := Prod.mk.inj (Option.some.inj (hclaim.symm.trans hclaim₁))
    exact apart key ⟨kind, c, hclaim, scope⟩ ⟨kind', c', hclaim', same.symm.trans scope⟩

theorem Moment.claim?_step (m : Moment σ) : m.step.claim? m.member.deployment = m.claim? := by
  rw [Step.claim?, Moment.claim?, Step.answer, Moment.answer, Moment.step]
  cases m.call.run m.member.deployment ⟨m.member.ledger, m.host⟩ with
  | ok answer s => cases answer <;> rfl
  | error e s => rfl

/-- Network 0 honours the first message of network 1, which is claimed from then on. -/
theorem claims_once_first : ∃ (D : Deployment) (past : List (Step Host)) (now : BridgeState Host)
    (m : Step Host) (c : Claim), Session D (fun _ _ => True) past now ∧ m ∈ past ∧
      m.claim? D = some (.message, c) ∧
      now.ledger.isClaimedGlobal D c.globalIndex = .ok true := by
  obtain ⟨m, c, run, hclaim⟩ := Run.exists_first_claim .keccak
  obtain ⟨host, session⟩ := run.session (n := m.network) (if_pos rfl)
  obtain ⟨-, -, keyed, claimed, -⟩ := claims_once session
  have hm : m.step ∈ stepsOf [.firstMessage .keccak .accepting, .firstFold .keccak .accepting, m]
      m.network := List.mem_filterMap.2 ⟨m, by simp, if_pos rfl⟩
  rw [← m.claim?_step] at hclaim
  obtain ⟨key, kind, c', hclaim', scope⟩ := keyed m.step hm (by rw [hclaim, Option.isSome_some])
  obtain ⟨-, rfl⟩ := Prod.mk.inj (Option.some.inj (hclaim.symm.trans hclaim'))
  exact ⟨_, _, _, m.step, c, session, hm, hclaim,
    (claimed c.globalIndex).2 ⟨key, scope, m.step, hm, kind, c, hclaim', scope⟩⟩

end ExitBridge
