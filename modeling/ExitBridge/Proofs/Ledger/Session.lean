/-
  Sessions: the calls to one ledger, one after another.

  A session starts when a ledger is created over a host. Then the ledger is called again and again;
  what else may happen to the host between two calls is a parameter.

  * `Step`: a call and the state it met; `Step.answer`, `Step.after`.
  * `Session`: the steps so far, and the state now; `Trail`: calls alone.
  * `Session.pairwise_ledgersOf`: what every move keeps holds between any state and any later one.
-/
import ExitBridge.Proofs.Ledger.Move

namespace ExitBridge

variable {σ : Type}

/-! ## New ledgers -/

theorem LedgerConfig.isAuthority_of_validate {config : LedgerConfig}
    (h : config.validate = .ok ()) :
    config.isAggregatorAuthority = (config.networkId == config.mainnetNetworkId) := by
  unfold validate at h
  split at h
  · cases h
  · split at h
    · cases h
    · split at h
      · cases h
      · rename_i role
        exact not_not.1 role

theorem LedgerConfig.validate_authority (n : UInt32) {bridge : Address} (h : bridge ≠ .zero) :
    (authority n bridge).validate = .ok () := by
  have template : defaultTemplate ≠ [] := by decide +kernel
  simp [validate, authority, h, template]

theorem LedgerConfig.validate_replica {n mainnet : UInt32} {bridge : Address}
    (h : bridge ≠ .zero) (other : n ≠ mainnet) :
    (replica n mainnet bridge).validate = .ok () := by
  have template : defaultTemplate ≠ [] := by decide +kernel
  simp [validate, replica, h, template, other]

/-- A gas token with an address breaks no rule, whatever network it comes from. -/
theorem LedgerConfig.validate_gasToken {config : LedgerConfig} {gas : GasToken}
    (valid : config.validate = .ok ()) (address : gas.address ≠ .zero) :
    { config with gasToken := some gas }.validate = .ok () := by
  unfold validate at valid ⊢
  split at valid
  · cases valid
  · split at valid
    · cases valid
    · split at valid
      · cases valid
      · split at valid
        · cases valid
        · simp_all

theorem LedgerConfig.effectiveGasToken?_of_address {config : LedgerConfig} {gas : GasToken}
    (configured : config.gasToken = some gas) (address : gas.address ≠ .zero) :
    config.effectiveGasToken? = some gas := by
  rw [effectiveGasToken?, configured, Option.filter_some, if_pos (decide_eq_true address)]

theorem Deployment.create_eq_ok [ExecutionHost σ] {H : NodeHasher}
    {config : LedgerConfig} {derivation : Derivation} {before : σ} {D : Deployment}
    {s : BridgeState σ} (h : create H config derivation before = .ok (D, s)) :
    config.validate = .ok () ∧ D.hasher = H ∧ D.config = config ∧ s.ledger = genesis config := by
  simp only [create, bind, Except.bind] at h
  split at h
  · cases h
  · rename_i valid
    split at h
    · split at h
      · cases h
      · cases h
        exact ⟨valid, rfl, rfl, rfl⟩
    · cases h
      exact ⟨valid, rfl, rfl, rfl⟩

/-- A new ledger has wrapped ether exactly on a network with a gas token, and has it deployed. -/
theorem Deployment.weth_of_create [ExecutionHost σ] {H : NodeHasher} {config : LedgerConfig}
    {derivation : Derivation} {before : σ} {D : Deployment} {s : BridgeState σ}
    (h : create H config derivation before = .ok (D, s)) :
    (D.weth = none ∧ D.config.effectiveGasToken? = none) ∨ ∃ weth, D.weth = some weth ∧
      D.config.effectiveGasToken?.isSome = true ∧
      ensureDeployed before weth wethMetadata = .ok s.host := by
  simp only [create, bind, Except.bind] at h
  split at h
  · cases h
  · split at h
    · rename_i gas
      split at h
      · cases h
      · rename_i ensured
        cases h
        exact .inr ⟨_, rfl, gas, ensured⟩
    · rename_i ether
      cases h
      exact .inl ⟨rfl, by simpa using ether⟩

/-- On a network with a gas token, a valid configuration makes a ledger over any host that has, or
    accepts, wrapped ether. -/
theorem Deployment.create_of_ensureDeployed [ExecutionHost σ] {H : NodeHasher}
    {config : LedgerConfig} {derivation : Derivation} {host host' : σ} {weth : Address}
    (valid : config.validate = .ok ()) (gasToken : config.effectiveGasToken?.isSome = true)
    (address : derivation config.bridgeAddress .zero (config.wrappedTokenTemplate ++ wethMetadata) =
      weth) (ensured : ensureDeployed host weth wethMetadata = .ok host') :
    create H config derivation host =
      .ok (⟨H, config, ⟨config.bridgeAddress, config.wrappedTokenTemplate, derivation⟩, some weth⟩,
        ⟨genesis config, host'⟩) := by
  subst address
  rw [create, valid]
  simp only [bind, Except.bind, gasToken, if_true, WrappingRule.addressWithSalt,
    WrappingRule.initCode, ensured]
  rfl

theorem Deployment.create_of_validate [ExecutionHost σ] {H : NodeHasher} {config : LedgerConfig}
    {derivation : Derivation} {host : σ} (valid : config.validate = .ok ())
    (ether : config.effectiveGasToken? = none) : create H config derivation host =
      .ok (⟨H, config, ⟨config.bridgeAddress, config.wrappedTokenTemplate, derivation⟩, none⟩,
        ⟨genesis config, host⟩) := by
  rw [create, valid, ether]
  rfl

/-! ## Steps -/

/-- One call of a session. -/
structure Step (σ : Type) where
  before : BridgeState σ
  call : Call

namespace Step

variable [ExecutionHost σ]

/-- The answer to the call. -/
def answer (D : Deployment) (m : Step σ) : Except LedgerError Answer :=
  match m.call.run D m.before with
  | .ok answer _ => .ok answer
  | .error e _ => .error e

/-- The state after the call. -/
def after (D : Deployment) (m : Step σ) : BridgeState σ :=
  match m.call.run D m.before with
  | .ok _ s => s
  | .error _ s => s

variable {D : Deployment} {m : Step σ}

theorem answer_eq_ok {answer : Answer} :
    m.answer D = .ok answer ↔ m.call.run D m.before = .ok answer (m.after D) := by
  rw [Step.answer, after]
  cases m.call.run D m.before <;> simp

theorem answer_eq_error {e : LedgerError} :
    m.answer D = .error e ↔ m.call.run D m.before = .error e (m.after D) := by
  rw [Step.answer, after]
  cases m.call.run D m.before <;> simp

theorem ledger_of_error {e : LedgerError} (h : m.answer D = .error e) :
    (m.after D).ledger = m.before.ledger :=
  Call.run_error (answer_eq_error.1 h)

/-- The moves of a step lead from the ledger that was met to the ledger afterwards; a call that
    fails makes none. -/
theorem exists_chain (D : Deployment) (m : Step σ) :
    ∃ moves, m.before.ledger.Chain D moves (m.after D).ledger ∧
      ((∃ answer, m.answer D = .ok answer ∧
          m.call.Makes D m.before answer moves (m.after D).host) ∨
        (∃ e, m.answer D = .error e) ∧ moves = []) := by
  cases h : m.answer D with
  | ok answer =>
    obtain ⟨moves, makes, chain⟩ := Call.makes_of_ok (answer_eq_ok.1 h)
    exact ⟨moves, chain, .inl ⟨answer, rfl, makes⟩⟩
  | error e =>
    refine ⟨[], ?_, .inr ⟨⟨e, rfl⟩, rfl⟩⟩
    rw [ledger_of_error h]
    exact .nil

end Step

/-! ## Sessions -/

/-- The ledger as each step met it, and as it is now. -/
def ledgersOf (past : List (Step σ)) (now : BridgeState σ) : List Ledger :=
  past.map (·.before.ledger) ++ [now.ledger]

/-- The steps of a session so far, oldest first, and the state now. Between calls, the host may
    become another one as it is handled by others. -/
inductive Session [ExecutionHost σ] (D : Deployment) (handled : σ → σ → Prop) :
    List (Step σ) → BridgeState σ → Prop
  | start {H : NodeHasher} {config : LedgerConfig} {derivation : Derivation} {before : σ}
      {s : BridgeState σ} (created : Deployment.create H config derivation before = .ok (D, s)) :
      Session D handled [] s
  | call {past : List (Step σ)} {m : Step σ} (session : Session D handled past m.before) :
      Session D handled (past ++ [m]) (m.after D)
  | host {past : List (Step σ)} {s : BridgeState σ} {host : σ}
      (session : Session D handled past s) (change : handled s.host host) :
      Session D handled past { s with host := host }

namespace Session

variable [ExecutionHost σ] {D : Deployment} {handled : σ → σ → Prop} {past : List (Step σ)}
  {now : BridgeState σ}

theorem weth_eq_none (session : Session D handled past now) :
    D.weth = none ↔ D.config.effectiveGasToken? = none := by
  induction session with
  | start created =>
    rcases Deployment.weth_of_create created with ⟨none, ether⟩ | ⟨weth, some, gas, -⟩
    · simp [none, ether]
    · constructor
      · intro none
        cases some.symm.trans none
      · intro ether
        rw [ether] at gas
        cases gas
  | call _ ih => exact ih
  | host _ _ ih => exact ih

theorem genesis_of_create {H : NodeHasher} {config : LedgerConfig} {derivation : Derivation}
    {before : σ} (created : Deployment.create H config derivation before = .ok (D, now)) :
    now.ledger = Deployment.genesis D.config := by
  obtain ⟨-, -, configured, ledger⟩ := Deployment.create_eq_ok created
  rw [configured, ledger]

/-- What a ledger has from the start, and what no move takes from it, it has at every time. -/
theorem invariant {P : Ledger → Prop} (session : Session D handled past now)
    (genesis : P (Deployment.genesis D.config))
    (move : ∀ {l m l'}, l.Moves D m l' → P l → P l') : P now.ledger := by
  induction session with
  | start created => rwa [genesis_of_create created]
  | @call _ m _ ih =>
    obtain ⟨moves, chain, -⟩ := m.exists_chain D
    exact chain.preserves (fun _ => move) ih
  | host _ _ ih => exact ih

theorem ledgersOf_snoc (D : Deployment) (past : List (Step σ)) (m : Step σ) :
    ledgersOf (past ++ [m]) (m.after D) = ledgersOf past m.before ++ [(m.after D).ledger] := by
  simp [ledgersOf]

theorem retention_journal (session : Session D handled past now)
    (unbounded : D.config.journalRetention = none) : now.ledger.journal.retention = none := by
  refine session.invariant (P := fun l => l.journal.retention = none) ?_ fun moved h => ?_
  · simp [Deployment.genesis, Journal.empty, unbounded]
  · rwa [moved.journal, Journal.retention_pushAll]

/-- What every step keeps holds between any state of a session and any later one. -/
theorem pairwise_ledgersOf_of_step {R : Ledger → Ledger → Prop}
    (session : Session D handled past now) (trans : ∀ {l l₁ l'}, R l l₁ → R l₁ l' → R l l')
    (step : ∀ {earlier : List (Step σ)} {m : Step σ}, Session D handled earlier m.before →
      R m.before.ledger (m.after D).ledger) : (ledgersOf past now).Pairwise R := by
  induction session with
  | start => exact List.pairwise_singleton _ _
  | @call past m session ih =>
    have last := step session
    rw [ledgersOf_snoc, List.pairwise_append]
    refine ⟨ih, List.pairwise_singleton _ _, fun l hl l' hl' => ?_⟩
    obtain rfl := List.mem_singleton.1 hl'
    rw [ledgersOf, List.pairwise_append] at ih
    rcases List.mem_append.1 hl with earlier | now
    · exact trans (ih.2.2 l earlier _ (List.mem_singleton_self _)) last
    · obtain rfl := List.mem_singleton.1 now
      exact last
  | host _ _ ih => exact ih

/-- What every move keeps holds between any state of a session and any later one. -/
theorem pairwise_ledgersOf {R : Ledger → Ledger → Prop} (session : Session D handled past now)
    (refl : ∀ l, R l l) (trans : ∀ {l l₁ l'}, R l l₁ → R l₁ l' → R l l')
    (move : ∀ {l m l'}, l.Moves D m l' → R l l') : (ledgersOf past now).Pairwise R := by
  refine session.pairwise_ledgersOf_of_step trans fun {_ m} _ => ?_
  obtain ⟨moves, chain, -⟩ := m.exists_chain D
  exact chain.preserves (fun _ moved earlier => trans earlier (move moved)) (refl _)

theorem of_mem_ledgersOf {R : Ledger → Ledger → Prop} {l : Ledger}
    (session : Session D handled past now) (refl : ∀ l, R l l)
    (trans : ∀ {l l₁ l'}, R l l₁ → R l₁ l' → R l l') (move : ∀ {l m l'}, l.Moves D m l' → R l l')
    (hl : l ∈ ledgersOf past now) : R l now.ledger := by
  have pairs := session.pairwise_ledgersOf refl trans move
  rw [ledgersOf, List.pairwise_append] at pairs
  rcases List.mem_append.1 hl with earlier | last
  · exact pairs.2.2 l earlier _ (List.mem_singleton_self _)
  · obtain rfl := List.mem_singleton.1 last
    exact refl _

/-- What holds of every step and each one before it holds of any two steps in turn. -/
theorem pairwise {R : Step σ → Step σ → Prop} (session : Session D handled past now)
    (step : ∀ {earlier later : List (Step σ)} {m' : Step σ}, past = earlier ++ m' :: later →
      Session D handled earlier m'.before → ∀ m ∈ earlier, R m m') : past.Pairwise R := by
  induction session with
  | start => exact List.Pairwise.nil
  | @call past last session ih =>
    refine List.pairwise_append.2 ⟨ih fun {earlier later m'} split session m hm => ?_,
      List.pairwise_singleton _ _, fun m hm m' hm' => ?_⟩
    · have split' : past ++ [last] = earlier ++ m' :: (later ++ [last]) := by
        rw [split]
        simp
      exact step split' session m hm
    · obtain rfl := List.mem_singleton.1 hm'
      exact step rfl session m hm
  | host _ _ ih => exact ih step

theorem cut {earlier later : List (Step σ)} {m : Step σ} (session : Session D handled past now)
    (split : past = earlier ++ m :: later) : Session D handled earlier m.before := by
  induction session generalizing later with
  | start => simp at split
  | @call before last session ih =>
    rcases List.eq_nil_or_concat later with rfl | ⟨later, final, rfl⟩
    · obtain ⟨rfl, hlast⟩ := List.append_inj' split rfl
      obtain rfl := List.singleton_inj.1 hlast
      exact session
    · have split' : before ++ [last] = (earlier ++ m :: later) ++ [final] := by simpa using split
      exact ih (List.append_inj' split' rfl).1
  | host _ _ ih => exact ih split

end Session

/-! ## Calls alone -/

/-- Calls one after another that lead from a state to the state now; between them nothing happens to
    the host. -/
inductive Trail [ExecutionHost σ] (D : Deployment) (start : BridgeState σ) :
    List (Step σ) → BridgeState σ → Prop
  | nil : Trail D start [] start
  | call {run : List (Step σ)} {m : Step σ} (trail : Trail D start run m.before) :
      Trail D start (run ++ [m]) (m.after D)

/-- Calls go on with a session. -/
theorem Trail.session [ExecutionHost σ] {D : Deployment} {handled : σ → σ → Prop}
    {past run : List (Step σ)} {start now : BridgeState σ} (trail : Trail D start run now)
    (session : Session D handled past start) : Session D handled (past ++ run) now := by
  induction trail with
  | nil => rwa [List.append_nil]
  | call _ ih =>
    rw [← List.append_assoc]
    exact .call ih

end ExitBridge
