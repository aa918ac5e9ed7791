/-
  Which asset a deposit sends, and which one a claim pays.

  Both follow from where the asset comes from, each by conditions of its own. A deposit is given a
  token and tells of its origin; a claim is given an origin and credits a token.

  * `Deployment.IsGasToken`, `Deployment.IsForeign`: origins by what a claim of them pays.
  * `AssetDeposit.Resolves`: the origin of a deposited token, and the effect that takes it.
  * `selectAsset_of_zero`, `selectAsset_of_isGasToken`, `selectAsset_of_home`,
    `selectAsset_of_isForeign`: the token that a claim credits, and the effects that do it.
-/
import ExitBridge.Ledger.Deposit
import ExitBridge.Proofs.Result
import ExitBridge.Proofs.WrappedTokens

namespace ExitBridge

/-! ## Origins -/

/-- Where the asset of a claim comes from. -/
def Claim.origin (c : Claim) : TokenOrigin := ⟨c.originNetwork, c.originAddress⟩

/-- Where the asset of a deposit comes from, as its event tells. -/
def BridgeEvent.origin (e : BridgeEvent) : TokenOrigin := ⟨e.originNetwork, e.originAddress⟩

/-- Where a deposited asset comes from. -/
def ResolvedAsset.origin (a : ResolvedAsset) : TokenOrigin := ⟨a.originNetwork, a.originAddress⟩

/-- Ether comes from the mainnet and has the zero address. -/
def Deployment.ether (D : Deployment) : TokenOrigin := ⟨D.config.mainnetNetworkId, .zero⟩

/-- Where the native token of a network with a gas token comes from. -/
def GasToken.origin (g : GasToken) : TokenOrigin := ⟨g.network, g.address⟩

namespace Deployment

/-- The gas token comes from there. -/
def IsGasToken (D : Deployment) (o : TokenOrigin) : Prop :=
  ∃ gas, D.config.effectiveGasToken? = some gas ∧ gas.origin = o

/-- Tokens from there are wrapped: not ether, not the gas token, not of this network. -/
structure IsForeign (D : Deployment) (o : TokenOrigin) : Prop where
  token : o.token ≠ .zero
  gasToken : ¬ D.IsGasToken o
  network : o.network ≠ D.config.networkId

variable {D : Deployment} {o : TokenOrigin}

theorem isGasToken_iff_any : D.IsGasToken o ↔ D.config.effectiveGasToken?.any
    (fun g => g.network = o.network ∧ g.address = o.token) = true := by
  cases o
  simp [IsGasToken, GasToken.origin, Option.any_eq_true]

/-- A gas token in effect does not have the zero address, which means ether. -/
theorem IsGasToken.token_ne_zero (h : D.IsGasToken o) : o.token ≠ .zero := by
  obtain ⟨gas, effective, rfl⟩ := h
  rw [LedgerConfig.effectiveGasToken?, Option.filter_eq_some_iff] at effective
  exact of_decide_eq_true effective.2

theorem not_isGasToken (ether : D.config.effectiveGasToken? = none) (o : TokenOrigin) :
    ¬ D.IsGasToken o := by
  rintro ⟨gas, effective, -⟩
  cases ether.symm.trans effective

end Deployment

/-! ## Deposits -/

/-- Where a deposited token comes from, what takes it from the sender, and whether the leaf tells of
    what reached the escrow. -/
inductive AssetDeposit.Resolves (D : Deployment) (wrapped : WrappedTokens) (sender : Address)
    (d : AssetDeposit) : TokenOrigin → Effect → Bool → Prop
  | ether (native : d.token = .zero) (ether : D.config.effectiveGasToken? = none) :
      Resolves D wrapped sender d D.ether (.lockNative sender d.amount) false
  | gasToken {gas : GasToken} (native : d.token = .zero)
      (effective : D.config.effectiveGasToken? = some gas) :
      Resolves D wrapped sender d gas.origin (.lockNative sender d.amount) false
  | weth (token : d.token ≠ .zero) (weth : D.weth = some d.token) :
      Resolves D wrapped sender d D.ether (.burnWrapped d.token sender d.amount) false
  | wrapped {origin : TokenOrigin} (token : d.token ≠ .zero) (other : D.weth ≠ some d.token)
      (known : wrapped.origin? d.token = some origin) :
      Resolves D wrapped sender d origin (.burnWrapped d.token sender d.amount) false
  | home (token : d.token ≠ .zero) (other : D.weth ≠ some d.token)
      (unknown : wrapped.origin? d.token = none) :
      Resolves D wrapped sender d ⟨D.config.networkId, d.token⟩
        (.pullTokens d.token sender d.amount d.permit) true

section

variable {D : Deployment} {wrapped : WrappedTokens} {sender : Address} {d : AssetDeposit}
  {asset : ResolvedAsset}

theorem resolveNative_resolves (native : d.token = .zero)
    (h : resolveNative D sender d = .ok asset) :
    d.Resolves D wrapped sender asset.origin asset.effect asset.amountFromReceipt := by
  rw [resolveNative] at h
  split at h
  · cases h
  · dsimp only at h
    split at h
    · rename_i gas effective
      cases h
      exact .gasToken native effective
    · rename_i ether
      cases h
      exact .ether native ether

theorem resolveLocal_resolves {metadata : Bytes} (token : d.token ≠ .zero)
    (other : D.weth ≠ some d.token) (unknown : wrapped.origin? d.token = none)
    (h : resolveLocal D sender d metadata = .ok asset) :
    d.Resolves D wrapped sender asset.origin asset.effect asset.amountFromReceipt := by
  rw [resolveLocal] at h
  split at h
  · obtain ⟨_, -, h⟩ := except_bind_eq_ok.1 h
    cases h
    exact .home token other unknown
  · cases h
    exact .home token other unknown

theorem resolveAsset_resolves {metadata : TokenMetadata}
    (h : resolveAsset D wrapped metadata sender d = .ok asset) :
    d.Resolves D wrapped sender asset.origin asset.effect asset.amountFromReceipt := by
  rw [resolveAsset] at h
  split at h
  · rename_i native
    exact resolveNative_resolves native h
  · rename_i token
    split at h
    · cases h
    · split at h
      · rename_i weth
        cases h
        exact .weth token weth
      · rename_i other
        split at h
        · rename_i origin known
          cases h
          exact .wrapped token other known
        · rename_i unknown
          exact resolveLocal_resolves token other unknown h

end

/-! ## Claims -/

section

variable {D : Deployment} {c : Claim}

theorem Claim.isGasToken_origin : D.IsGasToken c.origin ↔ D.config.effectiveGasToken?.any
    (fun g => g.network = c.originNetwork ∧ g.address = c.originAddress) = true :=
  Deployment.isGasToken_iff_any

theorem selectAsset_of_zero (w : WrappedTokens) (zero : c.originAddress = .zero) :
    selectAsset D w c = match D.weth with
      | none => ⟨.zero, [.releaseNative c.destinationAddress c.amount], none⟩
      | some weth => ⟨weth, [.mintWrapped weth c.destinationAddress c.amount], none⟩ := by
  unfold selectAsset
  exact if_pos zero

theorem selectAsset_of_isGasToken (w : WrappedTokens) (gas : D.IsGasToken c.origin) :
    selectAsset D w c = ⟨.zero, [.releaseNative c.destinationAddress c.amount], none⟩ := by
  have token : c.originAddress ≠ .zero := gas.token_ne_zero
  rw [selectAsset, if_neg token, if_pos (Claim.isGasToken_origin.1 gas)]

theorem selectAsset_of_home (w : WrappedTokens) (token : c.originAddress ≠ .zero)
    (other : ¬ D.IsGasToken c.origin) (home : c.originNetwork = D.config.networkId) :
    selectAsset D w c = ⟨c.originAddress,
      [.releaseTokens c.originAddress c.destinationAddress c.amount], none⟩ := by
  rw [selectAsset, if_neg token, if_neg (mt Claim.isGasToken_origin.2 other), if_pos home]

/-- Foreign tokens are credited in their wrapped form, which is made if there is none yet. -/
theorem selectAsset_of_isForeign (w : WrappedTokens) (foreign : D.IsForeign c.origin) :
    selectAsset D w c = match w.resolve? D.hasher c.origin with
      | some token => ⟨token, [.mintWrapped token c.destinationAddress c.amount], none⟩
      | none =>
        let token := D.wrapping.address D.hasher c.origin c.metadata
        ⟨token, [.deployWrapped token c.metadata, .mintWrapped token c.destinationAddress c.amount],
          some token⟩ := by
  have token : c.originAddress ≠ .zero := foreign.token
  have network : c.originNetwork ≠ D.config.networkId := foreign.network
  rw [selectAsset, if_neg token, if_neg (mt Claim.isGasToken_origin.2 foreign.gasToken),
    if_neg network]
  rfl

/-- A claim creates a token only for a foreign origin. -/
theorem isForeign_of_newWrappedToken {w : WrappedTokens} {token : Address}
    (created : (selectAsset D w c).newWrappedToken = some token) : D.IsForeign c.origin := by
  have token : c.originAddress ≠ .zero := by
    intro zero
    rw [selectAsset_of_zero w zero] at created
    split at created
    · cases created
    · cases created
  have gasToken : ¬ D.IsGasToken c.origin := by
    intro gas
    rw [selectAsset_of_isGasToken w gas] at created
    cases created
  refine ⟨token, gasToken, fun home => ?_⟩
  rw [selectAsset_of_home w token gasToken home] at created
  cases created

end

end ExitBridge
