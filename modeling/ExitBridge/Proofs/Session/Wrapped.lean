/-
  One wrapped token for each foreign origin.

  The first claim of a foreign origin creates its wrapped token, at the address that follows from
  that claim's metadata. Every later claim of the origin credits this token, whatever its own
  metadata. Origins are told apart by their salts, so origins with one salt share a token.

  * `Move.newToken?`, `Step.newToken?`: the wrapped tokens that were created.
  * `Wrapping`: what table and journal say of the tokens created so far.
  * `Session.resolve?_of_credits`: a token that was credited is the one registered from then on.
  * `one_wrapped_token_per_origin`: over all sessions.
-/
import ExitBridge.Proofs.Session.Deployed
import ExitBridge.Proofs.Session.Proven

namespace ExitBridge

/-! ## New tokens in the journal -/

/-- The wrapped token that an event tells of. -/
def Event.newToken? : Event → Option NewWrappedToken
  | newWrappedToken e => some e
  | _ => none

/-- The wrapped tokens that a journal tells of, oldest first. -/
def Journal.newTokens (j : Journal) : List NewWrappedToken :=
  j.events.toList.filterMap Event.newToken?

/-! ## Moves -/

/-- The wrapped token that a move registers. -/
def Move.newToken? : Move → Option NewWrappedToken
  | register e => some e
  | _ => none

theorem Move.newTokens_events (m : Move) :
    m.events.filterMap Event.newToken? = m.newToken?.toList := by
  cases m with
  | publish block outcome? => exact filterMap_events_publish (fun _ => rfl) block outcome?
  | fold index root block outcome =>
    exact filterMap_events_fold (fun _ => rfl) index root block outcome
  | toggle emergency => cases emergency <;> rfl
  | _ => rfl

namespace Ledger

variable {D : Deployment} {l l' : Ledger} {m : Move} {moves : List Move}
  {all : List NewWrappedToken}

theorem Moves.wrapped (h : l.Moves D m l') (records : l.wrapped.Records D.hasher all) :
    l'.wrapped.Records D.hasher (all ++ m.newToken?.toList) := by
  cases h with
  | register registered => exact records.register registered
  | _ => exact (List.append_nil all).symm ▸ records

theorem Chain.wrapped (h : l.Chain D moves l') (records : l.wrapped.Records D.hasher all) :
    l'.wrapped.Records D.hasher (all ++ moves.filterMap Move.newToken?) := by
  rw [List.filterMap_eq_flatMap_toList]
  induction h generalizing all with
  | nil => simpa using records
  | cons first _ ih =>
    rw [List.flatMap_cons, ← List.append_assoc]
    exact ih (first.wrapped records)

end Ledger

/-! ## Calls -/

/-- The wrapped token that a call creates, as its answer says. -/
def Call.newToken? (call : Call) : Answer → Option NewWrappedToken
  | .claim receipt => call.claim?.bind fun p => receipt.newWrappedToken.map p.2.newToken
  | _ => none

variable {σ : Type} [ExecutionHost σ]

/-- A call registers the wrapped token that it creates, and no other. -/
theorem Call.Makes.newTokens {D : Deployment} {s : BridgeState σ} {host : σ} {call : Call}
    {answer : Answer} {moves : List Move} (h : call.Makes D s answer moves host) :
    moves.filterMap Move.newToken? = (call.newToken? answer).toList := by
  cases h with
  | @claim kind c receipt key host honours =>
    rw [Claim.moves, List.filterMap_append, Call.newToken?, Call.claim?, Option.bind_some]
    cases receipt.newWrappedToken <;> rfl
  | ingest => exact Move.filterMap_lessons (fun _ _ => rfl) _
  | _ => rfl

/-! ## Steps -/

/-- The wrapped token that was created. -/
def Step.newToken? (D : Deployment) (m : Step σ) : Option NewWrappedToken :=
  match m.answer D with
  | .ok answer => m.call.newToken? answer
  | .error _ => none

/-- The wrapped tokens that were created, oldest first. -/
def createdBy (D : Deployment) (past : List (Step σ)) : List NewWrappedToken :=
  past.filterMap (·.newToken? D)

section

variable {D : Deployment} {m : Step σ} {c : Claim} {receipt : ClaimReceipt} {e : NewWrappedToken}

theorem Step.exists_registers (D : Deployment) (m : Step σ) :
    ∃ moves, m.before.ledger.Chain D moves (m.after D).ledger ∧
      moves.filterMap Move.newToken? = (m.newToken? D).toList := by
  obtain ⟨moves, chain, ⟨answer, answered, makes⟩ | ⟨⟨e, refused⟩, rfl⟩⟩ := m.exists_chain D
  · refine ⟨moves, chain, ?_⟩
    rw [Step.newToken?, answered]
    exact makes.newTokens
  · refine ⟨[], chain, ?_⟩
    rw [Step.newToken?, refused]
    rfl

theorem Step.newTokens_after (unbounded : m.before.ledger.journal.retention = none) :
    (m.after D).ledger.journal.newTokens =
      m.before.ledger.journal.newTokens ++ (m.newToken? D).toList := by
  obtain ⟨moves, chain, registers⟩ := m.exists_registers D
  rw [← registers]
  exact chain.filterMap_events unbounded Move.newTokens_events

namespace Step.Credits

theorem newToken? (h : m.Credits D c receipt) :
    m.newToken? D = receipt.newWrappedToken.map c.newToken := by
  rw [Step.newToken?, h.answer, h.call]
  rfl

/-- A claim of a foreign origin credits the token that is registered for it, or creates one. -/
theorem of_isForeign (h : m.Credits D c receipt) (foreign : D.IsForeign c.origin) :
    (m.before.ledger.wrapped.resolve? D.hasher c.origin = some receipt.creditedToken ∧
        receipt.newWrappedToken = none) ∨
      m.before.ledger.wrapped.resolve? D.hasher c.origin = none ∧
        receipt.creditedToken = D.wrapping.address D.hasher c.origin c.metadata ∧
        receipt.newWrappedToken = some receipt.creditedToken := by
  rw [h.receipt_eq, selectAsset_of_isForeign _ foreign]
  cases m.before.ledger.wrapped.resolve? D.hasher c.origin with
  | some token => exact .inl ⟨rfl, rfl⟩
  | none => exact .inr ⟨rfl, rfl, rfl⟩

end Step.Credits

theorem Step.exists_credits_of_newToken? (h : m.newToken? D = some e) : ∃ c receipt,
    m.Credits D c receipt ∧ D.IsForeign c.origin ∧
      receipt.newWrappedToken = some e.wrappedTokenAddress ∧ e.origin = c.origin := by
  rw [Step.newToken?] at h
  split at h
  · rename_i answer answered
    obtain ⟨moves, makes, -⟩ := Call.makes_of_ok (answer_eq_ok.1 answered)
    generalize hcall : m.call = call at makes h
    generalize (m.after D).host = host at makes
    cases makes with
    | @claim kind c receipt key host honours =>
      obtain ⟨token, created, rfl⟩ := Option.map_eq_some_iff.1 h
      cases kind with
      | asset =>
        refine ⟨c, receipt, ⟨hcall, answered⟩, ?_, created, rfl⟩
        rw [honours.told] at created
        exact isForeign_of_newWrappedToken created
      | message =>
        rw [honours.told] at created
        cases created
    | _ => cases h
  · cases h

end

/-! ## Sessions -/

variable {D : Deployment} {handled : σ → σ → Prop} {past : List (Step σ)} {now : BridgeState σ}

/-- The table has the wrapped tokens created so far, and a journal that keeps all events tells of
    them in turn. -/
structure Wrapping (D : Deployment) (past : List (Step σ)) (l : Ledger) : Prop where
  records : l.wrapped.Records D.hasher (createdBy D past)
  told : l.journal.retention = none → l.journal.newTokens = createdBy D past

theorem Step.wrapping {m : Step σ} (h : Wrapping D past m.before.ledger) :
    Wrapping D (past ++ [m]) (m.after D).ledger := by
  obtain ⟨moves, chain, registers⟩ := m.exists_registers D
  have created : createdBy D (past ++ [m]) = createdBy D past ++ (m.newToken? D).toList := by
    rw [createdBy, List.filterMap_append]
    cases h : m.newToken? D <;> simp [h, createdBy]
  refine ⟨?_, fun unbounded => ?_⟩
  · rw [created, ← registers]
    exact chain.wrapped h.records
  · have before := chain.retention.symm.trans unbounded
    rw [Step.newTokens_after before, h.told before, created]

theorem Session.wrapping (session : Session D handled past now) :
    Wrapping D past now.ledger := by
  induction session with
  | start created =>
    rw [genesis_of_create created]
    exact ⟨.empty D.hasher, fun _ => rfl⟩
  | call _ ih => exact Step.wrapping ih
  | host _ _ ih => exact ih

/-- What was registered when a step was made is registered from then on; its origin is foreign. -/
theorem Session.exists_created (session : Session D handled past now) {m : Step σ} (hm : m ∈ past)
    {token : Address} {origin : TokenOrigin}
    (known : m.before.ledger.wrapped.origin? token = some origin) :
    now.ledger.wrapped.origin? token = some origin ∧ D.IsForeign origin := by
  obtain ⟨earlier, later, split⟩ := List.append_of_mem hm
  obtain ⟨e, he, address, rfl⟩ := ((session.cut split).wrapping.records.byAddress _ _).1 known
  have still : e ∈ createdBy D past := by
    rw [split, createdBy, List.filterMap_append]
    exact List.mem_append_left _ he
  obtain ⟨m₀, -, created⟩ := List.mem_filterMap.1 still
  obtain ⟨c, receipt, -, foreign, -, origin⟩ := Step.exists_credits_of_newToken? created
  exact ⟨(session.wrapping.records.byAddress _ _).2 ⟨e, still, address, rfl⟩, origin ▸ foreign⟩

/-- A token that was credited for a foreign origin is the one registered for it from then on. -/
theorem Session.resolve?_of_credits (session : Session D handled past now) {m : Step σ}
    (hm : m ∈ past) {c : Claim} {receipt : ClaimReceipt} (credits : m.Credits D c receipt)
    (foreign : D.IsForeign c.origin) :
    now.ledger.wrapped.resolve? D.hasher c.origin = some receipt.creditedToken := by
  have records := session.wrapping.records
  rcases credits.of_isForeign foreign with ⟨known, -⟩ | ⟨-, -, created⟩
  · obtain ⟨earlier, later, split⟩ := List.append_of_mem hm
    have before := (session.cut split).wrapping.records
    obtain ⟨e, he, salt, address⟩ := before.resolve?.1 known
    have registered := (before.byAddress _ _).2 ⟨e, he, address, rfl⟩
    obtain ⟨still, -⟩ := session.exists_created hm registered
    rw [WrappedTokens.resolve?, ← salt]
    exact records.resolve?_of_origin? still
  · have new : c.newToken receipt.creditedToken ∈ createdBy D past := by
      refine List.mem_filterMap.2 ⟨m, hm, ?_⟩
      rw [credits.newToken?, created]
      rfl
    exact records.resolve?.2 ⟨_, new, rfl, rfl⟩

/-- No claim of an origin with this salt has been honoured. -/
def Unclaimed (D : Deployment) (past : List (Step σ)) (o : TokenOrigin) : Prop :=
  ∀ m ∈ past, ∀ c receipt, m.Credits D c receipt → D.IsForeign c.origin →
    c.origin.salt D.hasher ≠ o.salt D.hasher

/-- An origin has a wrapped token exactly when a claim under its salt has been honoured. -/
theorem Session.resolve?_eq_none (session : Session D handled past now) (o : TokenOrigin) :
    now.ledger.wrapped.resolve? D.hasher o = none ↔ Unclaimed D past o := by
  constructor
  · intro free m hm c receipt credits foreign salt
    have known := session.resolve?_of_credits hm credits foreign
    rw [WrappedTokens.resolve?, salt, ← WrappedTokens.resolve?, free] at known
    cases known
  · intro unclaimed
    by_contra known
    obtain ⟨token, known⟩ := Option.ne_none_iff_exists'.1 known
    obtain ⟨e, he, salt, -⟩ := session.wrapping.records.resolve?.1 known
    obtain ⟨m, hm, created⟩ := List.mem_filterMap.1 he
    obtain ⟨c, receipt, credits, foreign, -, origin⟩ := Step.exists_credits_of_newToken? created
    exact unclaimed m hm c receipt credits foreign (origin ▸ salt)

/-- Two honoured claims of foreign origins credit one token exactly when their origins have one
    salt. -/
theorem Session.pairwise_credits (session : Session D handled past now) :
    past.Pairwise fun m m' => ∀ c receipt c' receipt', m.Credits D c receipt →
      m'.Credits D c' receipt' → D.IsForeign c.origin → D.IsForeign c'.origin →
        (c'.origin.salt D.hasher = c.origin.salt D.hasher ↔
          receipt'.creditedToken = receipt.creditedToken) := by
  refine session.pairwise fun {earlier _ m'} _ session m hm c receipt c' receipt' credits credits'
    foreign foreign' => ⟨fun salt => ?_, fun token => ?_⟩
  · have known := session.resolve?_of_credits hm credits foreign
    rw [WrappedTokens.resolve?, ← salt, ← WrappedTokens.resolve?] at known
    rcases credits'.of_isForeign foreign' with ⟨known', -⟩ | ⟨free, -⟩
    · exact Option.some.inj (known'.symm.trans known)
    · cases free.symm.trans known
  · -- after the later claim both origins have the token
    have next : Session D handled (earlier ++ [m']) (m'.after D) := .call session
    have records := next.wrapping.records
    obtain ⟨e, he, salt, address⟩ := records.resolve?.1
      (next.resolve?_of_credits (List.mem_append_left _ hm) credits foreign)
    obtain ⟨e', he', salt', address'⟩ := records.resolve?.1
      (next.resolve?_of_credits (List.mem_append_right _ (List.mem_singleton_self m')) credits'
        foreign')
    have same : e = e' := records.eq_of_address he he' (by rw [address, address', token])
    rw [← salt, ← salt', same]

/-! ## One token for each origin -/

/-- **Each foreign origin has one wrapped token.** At any time of a session over a book whose
    journal keeps all events, whatever addresses the derivation gives: honoured claims of foreign
    origins credit one token exactly when the origins have one salt. The first claim under a salt
    creates the token, at the address that its metadata gives, and no other claim creates one; the
    journal tells of what was created. Wrapped ether is not registered, what is registered is
    deployed, and the table has the registrations that the journal tells of. -/
theorem one_wrapped_token_per_origin {past : List (Step Book)} {now : BridgeState Book}
    (session : Session D Book.Handled past now) (unbounded : D.config.journalRetention = none) :
    (past.Pairwise fun m m' => ∀ c receipt c' receipt', m.Credits D c receipt →
      m'.Credits D c' receipt' → D.IsForeign c.origin → D.IsForeign c'.origin →
        (c'.origin.salt D.hasher = c.origin.salt D.hasher ↔
          receipt'.creditedToken = receipt.creditedToken)) ∧
    (∀ earlier m later c receipt, past = earlier ++ m :: later → m.Credits D c receipt →
      D.IsForeign c.origin →
        (Unclaimed D earlier c.origin → receipt.newWrappedToken = some receipt.creditedToken ∧
          receipt.creditedToken = D.wrapping.address D.hasher c.origin c.metadata) ∧
        (¬ Unclaimed D earlier c.origin → receipt.newWrappedToken = none) ∧
        (m.after D).ledger.journal.newTokens = m.before.ledger.journal.newTokens ++
          (receipt.newWrappedToken.map c.newToken).toList) ∧
    (∀ weth, D.weth = some weth → now.ledger.wrapped.origin? weth = none) ∧
    (∀ token origin, now.ledger.wrapped.origin? token = some origin →
      now.host.isDeployed token = true) ∧
    now.ledger.wrapped.Records D.hasher now.ledger.journal.newTokens := by
  have placed := session.placed Book.deploysOnce
  refine ⟨session.pairwise_credits, fun earlier m later c receipt split credits foreign => ?_,
    fun weth hweth => ?_, fun token origin known => ?_, ?_⟩
  · have before := session.cut split
    rw [← before.resolve?_eq_none, ← credits.newToken?]
    refine ⟨fun free => ?_, fun taken => ?_,
      Step.newTokens_after (before.retention_journal unbounded)⟩
    · rcases credits.of_isForeign foreign with ⟨known, -⟩ | ⟨-, address, created⟩
      · cases free.symm.trans known
      · exact ⟨created, address⟩
    · rcases credits.of_isForeign foreign with ⟨-, none⟩ | ⟨free, -, -⟩
      · exact none
      · exact absurd free taken
  · exact Std.HashMap.getElem?_eq_none_of_contains_eq_false (placed.apart weth hweth)
  · refine placed.registered token ?_
    rw [Std.HashMap.contains_eq_isSome_getElem?, ← WrappedTokens.origin?, known]
    rfl
  · have wrapping := session.wrapping
    rw [wrapping.told (session.retention_journal unbounded)]
    exact wrapping.records

/-- A second claim of a token of network 0 on network 1, with other metadata than the first. -/
theorem one_wrapped_token_per_origin_twice : ∃ (D : Deployment) (past : List (Step Book))
    (now : BridgeState Book) (m m' : Step Book) (c c' : Claim) (receipt receipt' : ClaimReceipt),
    Session D Book.Handled past now ∧ D.config.journalRetention = none ∧ m ∈ past ∧ m' ∈ past ∧
      m.Credits D c receipt ∧ m'.Credits D c' receipt' ∧ c'.origin = c.origin ∧
      c'.metadata ≠ c.metadata ∧ receipt.newWrappedToken = some receipt.creditedToken ∧
      receipt'.newWrappedToken = none ∧ receipt'.creditedToken = receipt.creditedToken ∧
      now.ledger.wrapped.Records D.hasher now.ledger.journal.newTokens := by
  let config := LedgerConfig.replica 1 0 ⟨List.replicate 20 0xb0, rfl⟩
  let D : Deployment :=
    ⟨.keccak, config, ⟨config.bridgeAddress, config.wrappedTokenTemplate, .ofSalt⟩, none⟩
  let start : BridgeState Book := ⟨Deployment.genesis config, .empty config.bridgeAddress⟩
  let o : TokenOrigin := ⟨0, ⟨List.replicate 20 0xc3, rfl⟩⟩
  let receiver : Address := ⟨List.replicate 20 0xa1, rfl⟩
  have foreign : D.IsForeign o := ⟨by decide, Deployment.not_isGasToken rfl o, by decide⟩
  have session : Session D Book.Handled [] start :=
    .start (Deployment.create_of_validate
      (LedgerConfig.validate_replica (by decide) (by decide)) rfl)
  -- the first claim deploys the token
  obtain ⟨token, htoken⟩ : ∃ token, D.wrapping.address D.hasher o [1] = token := ⟨_, rfl⟩
  have select : selectAsset D start.ledger.wrapped (.asking o 1 receiver 5 [1]) = ⟨token,
      [.deployWrapped token [1], .mintWrapped token receiver 5], some token⟩ := by
    rw [← htoken]
    exact selectAsset_genesis foreign 1 receiver 5 [1]
  have free : start.host.isDeployed token = false := by simp [start, Book.isDeployed, Book.empty]
  obtain ⟨answer, host, applied⟩ := Book.exists_deployWrapped [1] receiver 5 free
  obtain ⟨i, m, c, receipt, r, wrapped, claimed, journal, granted, hmark, session⟩ :=
    session.exists_claim 0 rfl rfl (by simp [start, Deployment.genesis]) select applied
      (fun _ _ => by simp [start, Deployment.genesis, WrappedTokens.empty])
  -- the second finds it
  have known := session.resolve?_of_credits (by simp) granted.credits (granted.origin ▸ foreign)
  rw [granted.origin, granted.creditedToken] at known
  have select' : selectAsset D wrapped (.asking o 1 receiver 5 [2]) =
      ⟨token, [.mintWrapped token receiver 5], none⟩ := by
    rw [selectAsset_of_isForeign _ foreign]
    simp only [show (Claim.asking o 1 receiver 5 [2]).origin = o from rfl, known]
    rfl
  have deployed : host.isDeployed token = true := by
    obtain ⟨-, -, -, deployed, records⟩ := one_wrapped_token_per_origin session rfl
    obtain ⟨e, he, -, address⟩ := records.resolve?.1 known
    exact deployed token e.origin ((records.byAddress _ _).2 ⟨e, he, address, rfl⟩)
  obtain ⟨answer', host', applied'⟩ := Book.exists_mintWrapped receiver 5 deployed
  have unclaimed : claimed.isClaimed (.ofParts true 0 1) = false := by
    rw [Bool.eq_false_iff, Ne, ReplayGuard.isClaimed_mark hmark]
    rintro (before | same)
    · simp [start, Deployment.genesis] at before
    · exact absurd same (by decide)
  obtain ⟨i', m', c', receipt', r', wrapped', claimed', journal', granted', -, session'⟩ :=
    session.exists_claim 1 rfl rfl unclaimed select' applied' (by simp)
  obtain ⟨-, -, -, -, records⟩ := one_wrapped_token_per_origin session' rfl
  refine ⟨D, _, _, m, m', c, c', receipt, receipt', session', rfl, by simp, by simp, granted.credits,
    granted'.credits, granted'.origin.trans granted.origin.symm, ?_, ?_, granted'.newWrappedToken,
    granted'.creditedToken.trans granted.creditedToken.symm, records⟩
  · rw [granted.metadata, granted'.metadata]
    decide
  · rw [granted.newWrappedToken, granted.creditedToken]

end ExitBridge
