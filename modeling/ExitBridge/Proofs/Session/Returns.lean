/-
  What a deposit takes comes back, and what a claim credits goes out again.

  A deposit finds the origin of a token, and a claim the token of an origin, by conditions that are
  not the same and not in the same order. Over a session they undo each other, but for two kinds of
  tokens: one of this network that is also its gas token, and one at the zero address, which a
  deposit takes for the native token.

  * `Effect.opposite?`: what gives back what an effect took.
  * `claims_return_deposits`: a claim of a deposit's origin.
  * `deposits_return_claims`: a deposit of a claim's token.
-/
import ExitBridge.Proofs.Session.Wrapped

namespace ExitBridge

variable {σ : Type} [ExecutionHost σ]

/-! ## Effects and their opposites -/

/-- What gives back what an effect took from a sender, to some receiver. -/
def Effect.opposite? (receiver : Address) (amount : Amount) : Effect → Option Effect
  | lockNative _ _ => some (.releaseNative receiver amount)
  | pullTokens token _ _ _ => some (.releaseTokens token receiver amount)
  | burnWrapped token _ _ => some (.mintWrapped token receiver amount)
  | _ => none

/-! ## Claims of what was deposited -/

/-- **A claim returns what a deposit took.** When an asset has been deposited, a later claim of its
    origin on the same ledger credits the token of the deposit, and pays by the opposite of the
    effect that took it; unless a token of this network was pulled that is also its gas token. Then
    the claim releases native value. -/
theorem claims_return_deposits {D : Deployment} {handled : σ → σ → Prop} {past : List (Step σ)}
    {now : BridgeState σ} (session : Session D handled past now) :
    past.Pairwise fun m m' => ∀ sender d e c receipt, m.Sends D sender d e →
      m'.Credits D c receipt → c.origin = e.origin → ∃ taken, m.effects D = [taken] ∧
        (¬ (taken.pulls?.isSome = true ∧ D.IsGasToken e.origin) →
          receipt.creditedToken = d.token ∧ ∃ paid,
            taken.opposite? c.destinationAddress c.amount = some paid ∧ m'.effects D = [paid]) ∧
        (taken.pulls?.isSome = true ∧ D.IsGasToken e.origin →
          receipt.creditedToken = .zero ∧
            m'.effects D = [.releaseNative c.destinationAddress c.amount]) := by
  refine session.pairwise fun {earlier _ m'} _ session m hm sender d e c receipt sends credits
    same => ?_
  obtain ⟨taken, fromReceipt, resolves, effects⟩ := sends.resolves
  refine ⟨taken, effects, ?_⟩
  rw [credits.receipt_eq, credits.effects]
  rw [← same] at resolves ⊢
  clear sends effects
  generalize horigin : c.origin = origin at resolves
  cases resolves with
  | ether native ether =>
    have zero : c.originAddress = .zero := congrArg TokenOrigin.token horigin
    rw [selectAsset_of_zero _ zero, session.weth_eq_none.2 ether]
    exact ⟨fun _ => ⟨native.symm, _, rfl, rfl⟩, fun ⟨pulled, _⟩ => nomatch pulled⟩
  | gasToken native effective =>
    have gas : D.IsGasToken c.origin := ⟨_, effective, horigin.symm⟩
    rw [selectAsset_of_isGasToken _ gas]
    exact ⟨fun _ => ⟨native.symm, _, rfl, rfl⟩, fun ⟨pulled, _⟩ => nomatch pulled⟩
  | weth token weth =>
    have zero : c.originAddress = .zero := congrArg TokenOrigin.token horigin
    rw [selectAsset_of_zero _ zero, weth]
    exact ⟨fun _ => ⟨rfl, _, rfl, rfl⟩, fun ⟨pulled, _⟩ => nomatch pulled⟩
  | wrapped token other known =>
    -- the table keeps the token, and finds it both ways
    obtain ⟨still, foreign⟩ := session.exists_created hm known
    have registered := session.wrapping.records.resolve?_of_origin? still
    rw [← horigin] at foreign registered
    rw [selectAsset_of_isForeign _ foreign, registered]
    exact ⟨fun _ => ⟨rfl, _, rfl, rfl⟩, fun ⟨pulled, _⟩ => nomatch pulled⟩
  | home token other unknown =>
    have address : c.originAddress = d.token := congrArg TokenOrigin.token horigin
    have network : c.originNetwork = D.config.networkId := congrArg TokenOrigin.network horigin
    rw [← horigin]
    by_cases gas : D.IsGasToken c.origin
    · rw [selectAsset_of_isGasToken _ gas]
      exact ⟨fun apart => absurd ⟨rfl, gas⟩ apart, fun _ => ⟨rfl, rfl⟩⟩
    · rw [selectAsset_of_home _ (address ▸ token) gas network, address]
      exact ⟨fun _ => ⟨rfl, _, rfl, rfl⟩, fun ⟨_, gas'⟩ => absurd gas' gas⟩

theorem Session.exists_return (index destination : UInt32) (token : Address) {D : Deployment}
    {past : List (Step Book)} {now : BridgeState Book} {r : RootReplica}
    (session : Session D Book.Handled past now) (operational : now.ledger.emergency = false)
    (replica : now.ledger.roots = .replica r) (room : now.ledger.tree.isFull = false)
    (unclaimed : now.ledger.claimed.isClaimed (.ofParts true D.config.mainnetNetworkId index) = false)
    (leaves : destination ≠ D.config.networkId) (isToken : token ≠ .zero)
    (other : D.weth ≠ some token) (unknown : now.ledger.wrapped.origin? token = none)
    (sender : Address) :
    ∃ m i m' d e c receipt now', m.Sends D sender d e ∧ m'.Credits D c receipt ∧
      d.token = token ∧ e.origin = ⟨D.config.networkId, token⟩ ∧ c.origin = e.origin ∧
      c.amount = 5 ∧ m.effects D = [.pullTokens token sender 5 none] ∧
      Session D Book.Handled (past ++ [m] ++ [i, m']) now' := by
  let d : AssetDeposit := ⟨destination, sender, 5, token, 0, false, none⟩
  have resolved (metadata : TokenMetadata) : resolveAsset D now.ledger.wrapped metadata sender d =
      .ok ⟨D.config.networkId, token, metadata.encode, .pullTokens token sender 5 none, true⟩ := by
    simp [resolveAsset, resolveLocal, d, isToken, other, unknown, pure, Except.pure]
  obtain ⟨moved, host, applied⟩ :=
    Book.exists_pullTokens none (now.host.le_balance_mint token sender 5)
  obtain ⟨m, e, tree, journal, sends, origin, taken, -, session⟩ :=
    (session.host (.mint token sender 5)).exists_deposit operational leaves room rfl (resolved _)
      applied
  let o : TokenOrigin := ⟨D.config.networkId, token⟩
  by_cases gas : D.IsGasToken o
  · have select : selectAsset D now.ledger.wrapped (.asking o D.config.networkId sender 5 []) =
        ⟨.zero, [.releaseNative sender 5], none⟩ :=
      selectAsset_of_isGasToken _ gas
    obtain ⟨answer, host', applied'⟩ :=
      Book.exists_releaseNative sender (host.le_balance_mint .zero host.escrow 5)
    obtain ⟨i, m', c, receipt, r', wrapped, claimed, journal', granted, -, session⟩ :=
      (session.host (.mint .zero host.escrow 5)).exists_claim index operational replica unclaimed
        select applied' (by simp)
    exact ⟨m, i, m', d, e, c, receipt, _, sends, granted.credits, rfl, origin,
      granted.origin.trans origin.symm, granted.amount, taken, session⟩
  · have select : selectAsset D now.ledger.wrapped (.asking o D.config.networkId sender 5 []) =
        ⟨token, [.releaseTokens token sender 5], none⟩ :=
      selectAsset_of_home _ isToken gas rfl
    obtain ⟨answer, host', applied'⟩ :=
      Book.exists_releaseTokens sender (host.le_balance_mint token host.escrow 5)
    obtain ⟨i, m', c, receipt, r', wrapped, claimed, journal', granted, -, session⟩ :=
      (session.host (.mint token host.escrow 5)).exists_claim index operational replica unclaimed
        select applied' (by simp)
    exact ⟨m, i, m', d, e, c, receipt, _, sends, granted.credits, rfl, origin,
      granted.origin.trans origin.symm, granted.amount, taken, session⟩

/-- Network 1 gives five of a token of its own back. -/
theorem claims_return_deposits_home : ∃ (D : Deployment) (m i m' : Step Book)
    (now : BridgeState Book) (sender : Address) (d : AssetDeposit) (e : BridgeEvent) (c : Claim)
    (receipt : ClaimReceipt), Session D Book.Handled [m, i, m'] now ∧ m.Sends D sender d e ∧
      m'.Credits D c receipt ∧ c.origin = e.origin ∧ receipt.creditedToken = d.token ∧
      m.effects D = [.pullTokens d.token sender 5 none] ∧
      m'.effects D = [.releaseTokens d.token c.destinationAddress 5] := by
  let config := LedgerConfig.replica 1 0 ⟨List.replicate 20 0xb0, rfl⟩
  let D : Deployment :=
    ⟨.keccak, config, ⟨config.bridgeAddress, config.wrappedTokenTemplate, .ofSalt⟩, none⟩
  let sender : Address := ⟨List.replicate 20 0xa1, rfl⟩
  let start : BridgeState Book := ⟨Deployment.genesis config, .empty config.bridgeAddress⟩
  have session : Session D Book.Handled [] start :=
    .start (Deployment.create_of_validate
      (LedgerConfig.validate_replica (by decide) (by decide)) rfl)
  obtain ⟨m, i, m', d, e, c, receipt, now, sends, credits, token, -, origin, amount, taken,
    session⟩ := session.exists_return 0 0 ⟨List.replicate 20 0xd4, rfl⟩ rfl rfl rfl
      (by simp [start, Deployment.genesis]) (by decide) (by decide) (by simp [D])
      (by simp [start, Deployment.genesis, WrappedTokens.empty, WrappedTokens.origin?]) sender
  have pair := claims_return_deposits session
  simp only [List.nil_append, List.cons_append, List.pairwise_cons, List.mem_cons] at pair session
  obtain ⟨taken', effects, returned, -⟩ := pair.1 m' (by simp) sender d e c receipt sends credits
    origin
  obtain rfl := List.singleton_inj.1 (taken.symm.trans effects)
  obtain ⟨credited, paid, opposite, pays⟩ := returned fun gas => Deployment.not_isGasToken rfl _ gas.2
  rw [← token] at taken opposite
  rw [← Option.some.inj opposite, amount] at pays
  exact ⟨D, m, i, m', now, sender, d, e, c, receipt, session, sends, credits, origin, credited,
    taken, pays⟩

/-- Network 1 with a gas token of its own: five of it are pulled, and the claim of their origin
    credits the native token. -/
theorem claims_return_deposits_gas_token : ∃ (D : Deployment) (m i m' : Step Book)
    (now : BridgeState Book) (sender : Address) (d : AssetDeposit) (e : BridgeEvent) (c : Claim)
    (receipt : ClaimReceipt), D.config.validate = .ok () ∧
      Session D Book.Handled [m, i, m'] now ∧ m.Sends D sender d e ∧
      m'.Credits D c receipt ∧ c.origin = e.origin ∧ receipt.creditedToken ≠ d.token ∧
      m.effects D = [.pullTokens d.token sender 5 none] ∧
      m'.effects D = [.releaseNative c.destinationAddress 5] := by
  let bridge : Address := ⟨List.replicate 20 0xb0, rfl⟩
  let gas : GasToken := ⟨⟨List.replicate 20 0xd4, rfl⟩, 1, default⟩
  let config : LedgerConfig := { LedgerConfig.replica 1 0 bridge with gasToken := some gas }
  let weth : Address := ⟨List.replicate 20 0xee, rfl⟩
  let D : Deployment :=
    ⟨.keccak, config, ⟨bridge, config.wrappedTokenTemplate, .constant weth⟩, some weth⟩
  let sender : Address := ⟨List.replicate 20 0xa1, rfl⟩
  have valid : config.validate = .ok () :=
    LedgerConfig.validate_gasToken (LedgerConfig.validate_replica (by decide) (by decide))
      (by decide)
  have effective : config.effectiveGasToken? = some gas :=
    LedgerConfig.effectiveGasToken?_of_address rfl (by decide)
  obtain ⟨host, ensured⟩ :=
    Book.exists_ensureDeployed (.empty bridge) weth Deployment.wethMetadata
  have session : Session D Book.Handled [] ⟨Deployment.genesis config, host⟩ :=
    .start (Deployment.create_of_ensureDeployed valid (by rw [effective]; rfl) rfl ensured)
  obtain ⟨m, i, m', d, e, c, receipt, now, sends, credits, token, home, origin, amount, taken,
    session⟩ := session.exists_return 0 0 gas.address rfl rfl rfl
      (by simp [Deployment.genesis]) (by decide) (by decide) (by decide)
      (by simp [Deployment.genesis, WrappedTokens.empty, WrappedTokens.origin?]) sender
  have native : D.IsGasToken c.origin := ⟨gas, effective, (origin.trans home).symm⟩
  have credited := credits.receipt_eq
  have pays := credits.effects
  rw [selectAsset_of_isGasToken _ native] at credited pays
  rw [amount] at pays
  rw [← token] at taken
  refine ⟨D, m, i, m', now, sender, d, e, c, receipt, valid, session, sends, credits, origin, ?_,
    taken, pays⟩
  rw [credited, token]
  intro same
  cases same

/-! ## Deposits of what was claimed -/

namespace AssetDeposit.Resolves

variable {D : Deployment} {wrapped : WrappedTokens} {sender : Address} {d : AssetDeposit}
  {origin : TokenOrigin} {taken : Effect} {fromReceipt : Bool}

/-- The native token comes from where the gas token does, or else is ether. -/
theorem origin_of_native (h : d.Resolves D wrapped sender origin taken fromReceipt)
    (native : d.token = .zero) :
    D.IsGasToken origin ∨ D.config.effectiveGasToken? = none ∧ origin = D.ether := by
  cases h with
  | ether _ ether => exact .inr ⟨ether, rfl⟩
  | gasToken _ effective => exact .inl ⟨_, effective, rfl⟩
  | weth token => exact absurd native token
  | wrapped token => exact absurd native token
  | home token => exact absurd native token

theorem origin_of_weth (h : d.Resolves D wrapped sender origin taken fromReceipt)
    (token : d.token ≠ .zero) (weth : D.weth = some d.token) : origin = D.ether := by
  cases h with
  | ether native => exact absurd native token
  | gasToken native => exact absurd native token
  | weth => rfl
  | wrapped _ other => exact absurd weth other
  | home _ other => exact absurd weth other

/-- A registered token has the origin that it is registered with, unless it is wrapped ether. -/
theorem origin_of_known (h : d.Resolves D wrapped sender origin taken fromReceipt)
    (token : d.token ≠ .zero) (other : D.weth ≠ some d.token) {o : TokenOrigin}
    (known : wrapped.origin? d.token = some o) : origin = o := by
  cases h with
  | ether native => exact absurd native token
  | gasToken native => exact absurd native token
  | weth _ weth => exact absurd weth other
  | wrapped _ _ known' => exact Option.some.inj (known'.symm.trans known)
  | home _ _ unknown => cases unknown.symm.trans known

theorem origin_of_unknown (h : d.Resolves D wrapped sender origin taken fromReceipt)
    (token : d.token ≠ .zero) (other : D.weth ≠ some d.token)
    (unknown : wrapped.origin? d.token = none) : origin = ⟨D.config.networkId, d.token⟩ := by
  cases h with
  | ether native => exact absurd native token
  | gasToken native => exact absurd native token
  | weth _ weth => exact absurd weth other
  | wrapped _ _ known => cases unknown.symm.trans known
  | home => rfl

end AssetDeposit.Resolves

theorem Deployment.IsGasToken.eq {D : Deployment} {o o' : TokenOrigin} (h : D.IsGasToken o)
    (h' : D.IsGasToken o') : o = o' := by
  obtain ⟨gas, effective, rfl⟩ := h
  obtain ⟨gas', effective', rfl⟩ := h'
  rw [Option.some.inj (effective.symm.trans effective')]

/-- Under origins without collisions, a token that was credited for a foreign origin is registered
    with this origin from then on. -/
theorem Session.origin?_of_credits {D : Deployment} {handled : σ → σ → Prop}
    {past : List (Step σ)} {now : BridgeState σ} (session : Session D handled past now)
    {m : Step σ} (hm : m ∈ past) {c : Claim} {receipt : ClaimReceipt}
    (credits : m.Credits D c receipt) (foreign : D.IsForeign c.origin)
    (apart : ∀ m₀ ∈ past, ∀ c₀ receipt₀, m₀.Credits D c₀ receipt₀ →
      c₀.origin.salt D.hasher = c.origin.salt D.hasher → c₀.origin = c.origin) :
    now.ledger.wrapped.origin? receipt.creditedToken = some c.origin := by
  have records := session.wrapping.records
  obtain ⟨e, he, salt, address⟩ :=
    records.resolve?.1 (session.resolve?_of_credits hm credits foreign)
  obtain ⟨m₀, hm₀, created⟩ := List.mem_filterMap.1 he
  obtain ⟨c₀, receipt₀, credits₀, -, -, origin⟩ := Step.exists_credits_of_newToken? created
  refine (records.byAddress _ _).2 ⟨e, he, address, ?_⟩
  rw [origin] at salt ⊢
  exact apart m₀ hm₀ c₀ receipt₀ credits₀ salt

/-- **A deposit sends on what a claim credited.** Over a host that deploys no token twice, when the
    salts of the claimed origins do not collide: once a claim has credited a token, a later deposit
    of the token on the same ledger has the origin of the claim. For ether it is asked that the
    claim names the mainnet, and for a token of this network that it is neither wrapped ether nor
    registered as a wrapped token. And a claim that credited the zero address must have released
    native value, since this is what a deposit of the zero address is taken for. -/
theorem deposits_return_claims {D : Deployment} {handled : σ → σ → Prop}
    {deployed : σ → Address → Prop} {past : List (Step σ)} {now : BridgeState σ}
    (once : DeploysOnce handled deployed) (session : Session D handled past now)
    (apart : ∀ m ∈ past, ∀ m' ∈ past, ∀ c receipt c' receipt', m.Credits D c receipt →
      m'.Credits D c' receipt' → c.origin.salt D.hasher = c'.origin.salt D.hasher →
        c.origin = c'.origin) :
    past.Pairwise fun m m' => ∀ c receipt sender d e, m.Credits D c receipt →
      m'.Sends D sender d e → d.token = receipt.creditedToken →
      (c.originAddress = .zero → c.originNetwork = D.config.mainnetNetworkId) →
      (c.originNetwork = D.config.networkId → c.originAddress ≠ .zero →
        D.weth ≠ some d.token ∧ m'.before.ledger.wrapped.origin? d.token = none) →
      (receipt.creditedToken = .zero →
        m.effects D = [.releaseNative c.destinationAddress c.amount]) →
      e.origin = c.origin := by
  refine session.pairwise fun {earlier _ m'} split session m hm c receipt sender d e credits sends
    token mainnet home native => ?_
  obtain ⟨taken, fromReceipt, resolves, -⟩ := sends.resolves
  have told := credits.receipt_eq
  rw [credits.effects] at native
  by_cases zero : c.originAddress = .zero
  · -- ether
    have ether : c.origin = D.ether := by
      rw [Claim.origin, mainnet zero, zero]
      rfl
    rw [selectAsset_of_zero _ zero] at told native
    cases weth : D.weth with
    | none =>
      rw [weth] at told
      have isNative : d.token = .zero := by rw [token, told]; rfl
      rcases resolves.origin_of_native isNative with gas | ⟨-, origin⟩
      · exact absurd gas (Deployment.not_isGasToken (session.weth_eq_none.1 weth) _)
      · rw [origin, ether]
    | some address =>
      rw [weth] at told native
      have isWeth : d.token = address := by rw [token, told]; rfl
      have other : d.token ≠ .zero := fun isNative => by
        cases native (token.symm.trans isNative)
      rw [resolves.origin_of_weth other (isWeth ▸ weth), ether]
  by_cases gas : D.IsGasToken c.origin
  · -- the gas token
    rw [selectAsset_of_isGasToken _ gas] at told
    have isNative : d.token = .zero := by rw [token, told]; rfl
    rcases resolves.origin_of_native isNative with gas' | ⟨ether, -⟩
    · exact gas'.eq gas
    · exact absurd gas (Deployment.not_isGasToken ether _)
  by_cases own : c.originNetwork = D.config.networkId
  · -- a token of this network
    rw [selectAsset_of_home _ zero gas own] at told
    have address : d.token = c.originAddress := by rw [token, told]; rfl
    obtain ⟨other, unknown⟩ := home own zero
    rw [resolves.origin_of_unknown (address ▸ zero) other unknown, Claim.origin, own, address]
  · -- a wrapped token
    have foreign : D.IsForeign c.origin := ⟨zero, gas, own⟩
    have among : ∀ x ∈ earlier, x ∈ past := fun x hx => split ▸ List.mem_append_left _ hx
    have known := session.origin?_of_credits hm credits foreign fun m₀ hm₀ c₀ receipt₀ credits₀ =>
      apart m₀ (among m₀ hm₀) m (among m hm) c₀ receipt₀ c receipt credits₀ credits
    rw [← token] at known
    have other : D.weth ≠ some d.token := by
      intro weth
      have unknown := (session.placed once).apart _ weth
      rw [Std.HashMap.contains_eq_isSome_getElem?, ← WrappedTokens.origin?, known] at unknown
      cases unknown
    refine resolves.origin_of_known (fun isNative => ?_) other known
    have released := native (token.symm.trans isNative)
    rw [selectAsset_of_isForeign _ foreign] at released
    split at released
    · cases released
    · cases released

/-- One claim of a new ledger, of ether of the mainnet or of a token of another network, and then a
    deposit of the token that it credited. -/
structure Resends (D : Deployment) (handled : σ → σ → Prop) (m m' : Step σ) (c : Claim)
    (receipt : ClaimReceipt) (sender : Address) (d : AssetDeposit) (e : BridgeEvent) : Prop where
  session : ∃ i now, Session D handled [i, m, m'] now ∧
    ∀ x ∈ [i, m, m'], ∀ c' receipt', x.Credits D c' receipt' → c' = c
  credits : m.Credits D c receipt
  sends : m'.Sends D sender d e
  token : d.token = receipt.creditedToken
  mainnet : c.originAddress = .zero → c.originNetwork = D.config.mainnetNetworkId
  abroad : c.originNetwork = D.config.networkId → c.originAddress = .zero

/-- A new replica can be brought to it, over a host that carries both effects out. -/
theorem Session.exists_resends {D : Deployment} {handled : σ → σ → Prop} {now : BridgeState σ}
    {r : RootReplica} {o : TokenOrigin} {receiver : Address} {amount : Amount} {metadata : Bytes}
    {selection : AssetSelection} {answer moved : ExecutionReceipt} {host host' host'' : σ}
    {sender : Address} {d : AssetDeposit} {asset : ResolvedAsset}
    (session : Session D handled [] now) (genesis : now.ledger = Deployment.genesis D.config)
    (replica : now.ledger.roots = .replica r)
    (mainnet : o.token = .zero → o.network = D.config.mainnetNetworkId)
    (abroad : o.network = D.config.networkId → o.token = .zero)
    (selected : selectAsset D now.ledger.wrapped
      (.asking o D.config.networkId receiver amount metadata) = selection)
    (applied : ExecutionHost.apply now.host selection.effects = .ok (answer, host))
    (change : handled host host') (token : d.token = selection.creditedToken)
    (leaves : d.destinationNetwork ≠ D.config.networkId) (quiet : d.forceUpdate = false)
    (resolved : ∀ w : WrappedTokens, (D.IsForeign o → w.origin? d.token = some o) →
      resolveAsset D w (ExecutionHost.tokenMetadata host' d.token) sender d = .ok asset)
    (taken : ExecutionHost.apply host' [asset.effect] = .ok (moved, host'')) :
    ∃ m m' c receipt e, Resends D handled m m' c receipt sender d e ∧ c.origin = o ∧
      e.origin = asset.origin ∧ m.effects D = selection.effects := by
  have operational : now.ledger.emergency = false := by rw [genesis]; rfl
  have room : now.ledger.tree.isFull = false := by rw [genesis]; rfl
  obtain ⟨i, m, c, receipt, r', wrapped, claimed, journal, granted, -, claims⟩ :=
    session.exists_claim 0 operational replica (by simp [genesis, Deployment.genesis]) selected
      applied (fun _ _ => by simp [genesis, Deployment.genesis, WrappedTokens.empty])
  have origin := granted.origin
  have credited := granted.creditedToken
  have known (foreign : D.IsForeign o) : wrapped.origin? d.token = some o := by
    have known := claims.origin?_of_credits (by simp) granted.credits (origin ▸ foreign)
      fun m₀ hm₀ c₀ receipt₀ credits₀ _ => by
        rw [granted.only m₀ (by simpa using hm₀) c₀ receipt₀ credits₀]
    rwa [token, ← credited, ← origin]
  obtain ⟨m', e, tree, journal', sends, sent, -, -, session⟩ :=
    (claims.host change).exists_deposit operational leaves room quiet (resolved _ known) taken
  refine ⟨m, m', c, receipt, e, ⟨⟨i, _, session, ?_⟩, granted.credits, sends,
    token.trans credited.symm, ?_, ?_⟩, origin, sent, granted.effects⟩
  · intro x hx c' receipt' credits'
    rcases List.mem_append.1 (show x ∈ [i, m] ++ [m'] from hx) with claim | deposit
    · exact granted.only x claim c' receipt' credits'
    · obtain rfl := List.mem_singleton.1 deposit
      obtain ⟨block, sends⟩ := sends.call
      cases sends.symm.trans credits'.call
  · intro zero
    subst origin
    exact mainnet zero
  · intro own
    subst origin
    exact abroad own

/-- Network 1 mints five of the wrapped form of a token of network 0, and burns them again. -/
theorem deposits_return_claims_wrapped : ∃ (D : Deployment) (m m' : Step Book) (c : Claim)
    (receipt : ClaimReceipt) (sender : Address) (d : AssetDeposit) (e : BridgeEvent),
    Resends D Book.Handled m m' c receipt sender d e ∧ D.IsForeign c.origin ∧
      e.origin = c.origin := by
  let bridge : Address := ⟨List.replicate 20 0xb0, rfl⟩
  let config := LedgerConfig.replica 1 0 bridge
  let token : Address := ⟨List.replicate 20 0xe5, rfl⟩
  let D : Deployment :=
    ⟨.keccak, config, ⟨bridge, config.wrappedTokenTemplate, .constant token⟩, none⟩
  let o : TokenOrigin := ⟨0, ⟨List.replicate 20 0xc3, rfl⟩⟩
  let sender : Address := ⟨List.replicate 20 0xa1, rfl⟩
  let d : AssetDeposit := ⟨0, sender, 5, token, 0, false, none⟩
  have foreign : D.IsForeign o := ⟨by decide, Deployment.not_isGasToken rfl o, by decide⟩
  have session : Session D Book.Handled [] ⟨Deployment.genesis config, .empty bridge⟩ :=
    .start (Deployment.create_of_validate
      (LedgerConfig.validate_replica (by decide) (by decide)) rfl)
  have select := selectAsset_genesis foreign 1 sender 5 []
  have free : (Book.empty bridge).isDeployed token = false := by simp [Book.isDeployed, Book.empty]
  obtain ⟨answer, host, applied⟩ := Book.exists_deployWrapped [] sender 5 free
  have deployed : (host.mint token sender 5).isDeployed token = true :=
    (Book.Handled.mint token sender 5).isDeployed (Book.deploysOnce.fresh applied).2
  obtain ⟨moved, host', taken⟩ :=
    Book.exists_burnWrapped deployed (host.le_balance_mint token sender 5)
  let asset : ResolvedAsset :=
    ⟨0, o.token, ((host.mint token sender 5).tokenMetadata token).encode,
      .burnWrapped token sender 5, false⟩
  have resolved (w : WrappedTokens) (known : D.IsForeign o → w.origin? token = some o) :
      resolveAsset D w ((host.mint token sender 5).tokenMetadata token) sender d = .ok asset := by
    have isToken : token ≠ .zero := by decide
    simp only [resolveAsset, known foreign, d, isToken, if_false, ne_eq, not_true]
    rfl
  obtain ⟨m, m', c, receipt, e, resends, origin, -, -⟩ := session.exists_resends (o := o) (d := d)
    rfl rfl (fun zero => absurd zero (by decide)) (fun own => absurd own (by decide)) select applied
      (.mint token sender 5) rfl (by decide) rfl resolved taken
  obtain ⟨i, now, run, only⟩ := resends.session
  refine ⟨D, m, m', c, receipt, sender, d, e, resends, origin ▸ foreign, ?_⟩
  have apart : ∀ x ∈ [i, m, m'], ∀ x' ∈ [i, m, m'], ∀ c₀ receipt₀ c₁ receipt₁,
      x.Credits D c₀ receipt₀ → x'.Credits D c₁ receipt₁ →
        c₀.origin.salt D.hasher = c₁.origin.salt D.hasher → c₀.origin = c₁.origin := by
    intro x hx x' hx' c₀ receipt₀ c₁ receipt₁ credits₀ credits₁ _
    rw [only x hx c₀ receipt₀ credits₀, only x' hx' c₁ receipt₁ credits₁]
  have pair := deposits_return_claims Book.deploysOnce run apart
  simp only [List.pairwise_cons, List.mem_cons] at pair
  refine pair.2.1 m' (by simp) c receipt sender d e resends.credits resends.sends resends.token
    resends.mainnet ?_ ?_
  · intro own other
    exact absurd (resends.abroad own) other
  · intro zero
    rw [← resends.token] at zero
    cases zero

/-- Two deposits of another origin than was claimed, both of network 1 with a gas token. Wrapped
    ether that is derived to be at the zero address is sent on as the gas token; and where a host
    deploys again what is deployed already, a token that is wrapped at the address of wrapped ether
    is sent on as ether. -/
theorem deposits_return_claims_zero_or_redeployed :
    (∃ (D : Deployment) (m m' : Step Book) (c : Claim) (receipt : ClaimReceipt) (sender : Address)
      (d : AssetDeposit) (e : BridgeEvent), D.config.validate = .ok () ∧
        Resends D Book.Handled m m' c receipt sender d e ∧ e.origin ≠ c.origin) ∧
    (∃ (D : Deployment) (m m' : Step Host) (c : Claim) (receipt : ClaimReceipt) (sender : Address)
      (d : AssetDeposit) (e : BridgeEvent), D.config.validate = .ok () ∧
        Resends D Eq m m' c receipt sender d e ∧ e.origin ≠ c.origin ∧
        receipt.creditedToken ≠ .zero) := by
  let bridge : Address := ⟨List.replicate 20 0xb0, rfl⟩
  let gas : GasToken := ⟨⟨List.replicate 20 0xd4, rfl⟩, 0, default⟩
  let config : LedgerConfig := { LedgerConfig.replica 1 0 bridge with gasToken := some gas }
  let sender : Address := ⟨List.replicate 20 0xa1, rfl⟩
  have valid : config.validate = .ok () :=
    LedgerConfig.validate_gasToken (LedgerConfig.validate_replica (by decide) (by decide))
      (by decide)
  have effective : config.effectiveGasToken? = some gas :=
    LedgerConfig.effectiveGasToken?_of_address rfl (by decide)
  constructor
  · let D : Deployment :=
      ⟨.keccak, config, ⟨bridge, config.wrappedTokenTemplate, .ofSalt⟩, some .zero⟩
    let d : AssetDeposit := ⟨0, sender, 5, .zero, 5, false, none⟩
    obtain ⟨start, ensured⟩ :=
      Book.exists_ensureDeployed (.empty bridge) .zero Deployment.wethMetadata
    have session : Session D Book.Handled [] ⟨Deployment.genesis config, start⟩ :=
      .start (Deployment.create_of_ensureDeployed valid (by rw [effective]; rfl) rfl ensured)
    have select : selectAsset D (Deployment.genesis config).wrapped
        (.asking D.ether 1 sender 5 []) = ⟨.zero, [.mintWrapped .zero sender 5], none⟩ :=
      selectAsset_of_zero _ rfl
    obtain ⟨answer, host, applied⟩ :=
      Book.exists_mintWrapped sender 5 (Book.deploysOnce.ensureDeployed ensured)
    obtain ⟨host', taken, -⟩ := Book.exists_lockNative (host.le_balance_mint .zero sender 5)
    have resolved (w : WrappedTokens) (metadata : TokenMetadata) :
        resolveAsset D w metadata sender d =
          .ok ⟨0, gas.address, gas.metadata.encode, .lockNative sender 5, false⟩ := by
      simp only [resolveAsset, resolveNative, d, D, effective]
      rfl
    obtain ⟨m, m', c, receipt, e, resends, origin, sent, -⟩ := session.exists_resends (d := d) rfl
      rfl (fun _ => rfl) (fun _ => rfl) select applied (.mint .zero sender 5) rfl (by decide) rfl
        (fun w _ => resolved w _) taken
    refine ⟨D, m, m', c, receipt, sender, d, e, valid, resends, ?_⟩
    rw [origin, sent]
    decide
  · let weth : Address := ⟨List.replicate 20 0xee, rfl⟩
    let D : Deployment :=
      ⟨.keccak, config, ⟨bridge, config.wrappedTokenTemplate, .constant weth⟩, some weth⟩
    let o : TokenOrigin := ⟨0, ⟨List.replicate 20 0xc3, rfl⟩⟩
    let d : AssetDeposit := ⟨0, sender, 5, weth, 0, false, none⟩
    have foreign : D.IsForeign o := by
      refine ⟨by decide, ?_, by decide⟩
      rintro ⟨g, effective', same⟩
      obtain rfl := Option.some.inj (effective.symm.trans effective')
      exact absurd same (by decide)
    have ensured : Deployment.ensureDeployed Host.accepting weth Deployment.wethMetadata =
        .ok Host.accepting := rfl
    have session : Session D Eq [] ⟨Deployment.genesis config, Host.accepting⟩ :=
      .start (Deployment.create_of_ensureDeployed valid (by rw [effective]; rfl) rfl ensured)
    have select := selectAsset_genesis foreign 1 sender 5 []
    have resolved (w : WrappedTokens) (metadata : TokenMetadata) :
        resolveAsset D w metadata sender d =
          .ok ⟨0, .zero, [], .burnWrapped weth sender 5, false⟩ := by
      have isToken : weth ≠ .zero := by decide
      simp only [resolveAsset, d, isToken, if_false, ne_eq, not_true]
      rfl
    obtain ⟨m, m', c, receipt, e, resends, origin, sent, -⟩ := session.exists_resends (o := o)
      (d := d) rfl rfl (fun zero => absurd zero (by decide)) (fun own => absurd own (by decide))
        select rfl rfl rfl (by decide) rfl (fun w _ => resolved w _) rfl
    refine ⟨D, m, m', c, receipt, sender, d, e, valid, resends, ?_, ?_⟩
    · rw [origin, sent]
      decide
    · rw [← resends.token]
      decide

end ExitBridge
