/-
  What is left of a deposited amount after the transfer fee.

  A token of the network's own is pulled from its owner, and the leaf of the deposit tells of what
  reached the escrow. The fee is a product divided by a constant, and the product wraps: it is right
  while the product fits, and too small from there on.

  * `AssetDeposit.PassesHome`: a ledger accepts the deposit of a token of its own network.
  * `Book.exists_pull`, `exists_bridgeAsset_home`: what is pulled, and what the leaf tells of.
  * `transfer_fees_wrap`: over all amounts and fees.
-/
import ExitBridge.Proofs.Execution.TransferFee
import ExitBridge.Proofs.Session.Payment

namespace ExitBridge

/-- A ledger accepts the deposit of a token of its own network, if the token can be pulled. -/
structure AssetDeposit.PassesHome (D : Deployment) (l : Ledger) (sender : Address)
    (d : AssetDeposit) : Prop where
  operational : l.emergency = false
  leaves : d.destinationNetwork ≠ D.config.networkId
  room : l.tree.isFull = false
  canPublish : d.forceUpdate = true → l.roots.canPublish = true
  token : d.token ≠ .zero
  other : D.weth ≠ some d.token
  unknown : l.wrapped.origin? d.token = none
  value : d.value = 0
  permit : ∀ p, d.permit = some p → checkPermit D sender d.amount p = .ok ()

variable {b : Book} {sender : Address} {d : AssetDeposit}

/-- Tokens that their owner has are pulled, and arrive without the fee. -/
theorem Book.exists_pull {token : Address} {amount : Amount} (permit : Option Permit)
    (enough : amount ≤ b.balance token sender) :
    ∃ b', b.apply [.pullTokens token sender amount permit] =
      .ok (⟨amount - b.transferFee token amount⟩, b') := by
  obtain ⟨⟨pulled⟩, b', applied⟩ := exists_pullTokens permit enough
  have alone : b.apply ([] ++ .pullTokens token sender amount permit :: []) = .ok (⟨pulled⟩, b') :=
    applied
  obtain ⟨reaches, -⟩ := balance_of_apply alone (by simp)
  exact ⟨b', reaches ▸ applied⟩

theorem AssetDeposit.PassesHome.resolveAsset {D : Deployment} {l : Ledger}
    (passes : d.PassesHome D l sender) (metadata : TokenMetadata) :
    resolveAsset D l.wrapped metadata sender d = .ok ⟨D.config.networkId, d.token, metadata.encode,
      .pullTokens d.token sender d.amount d.permit, true⟩ := by
  rw [ExitBridge.resolveAsset, if_neg passes.token, if_neg (not_not.2 passes.value),
    if_neg passes.other, passes.unknown]
  dsimp only [resolveLocal]
  cases permit : d.permit with
  | none => rfl
  | some p =>
    dsimp only
    rw [passes.permit p permit]
    rfl

theorem exists_bridgeAsset_home {D : Deployment} {l : Ledger} (block : BlockContext)
    (passes : d.PassesHome D l sender) (enough : d.amount ≤ b.balance d.token sender) :
    ∃ receipt s' e moves, bridgeAsset D sender d block ⟨l, b⟩ = .ok receipt s' ∧
      l.Chain D (.append e :: moves) s'.ledger ∧ receipt.amount = e.amount ∧
      e.amount = d.amount - b.transferFee d.token d.amount := by
  obtain ⟨b', applied⟩ := Book.exists_pull d.permit enough
  obtain ⟨receipt, s', run, -⟩ := exists_bridgeAsset (s := ⟨l, b⟩) block passes.operational
    passes.leaves passes.room passes.canPublish (passes.resolveAsset _) applied
  obtain ⟨asset, moved, host, resolved, carried, amount⟩ := bridgeAsset_amount run
  cases (passes.resolveAsset _).symm.trans resolved
  cases applied.symm.trans carried
  obtain ⟨e, host, deposits, committed⟩ := bridgeAsset_eq_ok run
  have told : receipt.amount = e.amount := by
    have event := deposits.event
    rw [Call.deposit?, passes.resolveAsset] at event
    cases event
    rfl
  have left : e.amount = d.amount - b.transferFee d.token d.amount := told.symm.trans amount
  obtain ⟨-, ⟨-, -, chain⟩ | ⟨outcome?, -, -, chain⟩⟩ :=
    commitDeposit_chain committed (Call.depositCount_of_deposit? deposits.event)
  · exact ⟨receipt, s', e, [], run, chain, told, left⟩
  · exact ⟨receipt, s', e, [.publish block outcome?], run, chain, told, left⟩

/-- Amounts and fees of all sizes can be had. -/
theorem exists_passesHome (amount : Amount) {bps : Nat} (small : bps ≤ Book.maxFeeBps) :
    ∃ (D : Deployment) (l : Ledger) (b : Book) (sender : Address) (d : AssetDeposit),
      Book.FeesSet b.feeBps ∧ b.rate d.token = bps ∧ sender ≠ b.escrow ∧ d.amount = amount ∧
      d.amount ≤ b.balance d.token sender ∧ d.PassesHome D l sender := by
  let config := LedgerConfig.standard
  let D : Deployment :=
    ⟨.keccak, config, ⟨config.bridgeAddress, config.wrappedTokenTemplate, .ofSalt⟩, none⟩
  let token : Address := ⟨List.replicate 20 0xd4, rfl⟩
  let sender : Address := ⟨List.replicate 20 0xa1, rfl⟩
  let funded := (Book.empty config.bridgeAddress).mint token sender amount
  let d : AssetDeposit := ⟨1, sender, amount, token, 0, false, none⟩
  have leaves : (1 : UInt32) ≠ config.networkId := by decide
  have isToken : token ≠ .zero := by decide
  have other : sender ≠ config.bridgeAddress := by decide
  refine ⟨D, Deployment.genesis config, funded.setTransferFee token bps, sender, d,
    .set (b := funded) .none token bps, ?_, other, rfl,
    Book.le_balance_mint (.empty config.bridgeAddress) token sender amount, ?_⟩
  · rw [Book.rate_setTransferFee, if_pos rfl, Nat.min_eq_left small]
  · exact
      { operational := rfl
        leaves := leaves
        room := rfl
        canPublish := nofun
        token := isToken
        other := nofun
        unknown := by simp [Deployment.genesis, WrappedTokens.empty, WrappedTokens.origin?]
        value := rfl
        permit := nofun }

/-- **Transfer fees wrap.** What is pulled of an amount, and what the leaf of a deposit tells of, is
    the amount without a share of the product of amount and fee, as far as the product does not
    wrap. It is the right one just if the product does not wrap at all. -/
theorem transfer_fees_wrap (filled : Book.FeesSet b.feeBps)
    (enough : d.amount ≤ b.balance d.token sender) : ∃ left : Amount,
      left.toNat =
        d.amount.toNat - d.amount.toNat * b.rate d.token % 2 ^ 256 / Book.maxFeeBps ∧
      (left.toNat = d.amount.toNat - d.amount.toNat * b.rate d.token / Book.maxFeeBps ↔
        d.amount.toNat * b.rate d.token < 2 ^ 256) ∧
      (∃ b', b.apply [.pullTokens d.token sender d.amount d.permit] = .ok (⟨left⟩, b')) ∧
      ∀ (D : Deployment) (l : Ledger) (block : BlockContext), d.PassesHome D l sender →
        ∃ receipt s' e moves, bridgeAsset D sender d block ⟨l, b⟩ = .ok receipt s' ∧
          l.Chain D (.append e :: moves) s'.ledger ∧ receipt.amount = e.amount ∧
          e.amount = left := by
  have small := filled.rate_le d.token
  have fee := Book.toNat_transferFee small d.amount
  have bound := Book.transferFee_le small d.amount
  refine ⟨d.amount - b.transferFee d.token d.amount, ?_, ?_, Book.exists_pull d.permit enough, ?_⟩
  · rw [Book.toNat_sub_transferFee small, fee]
  · rw [Book.toNat_sub_transferFee small, ← Book.toNat_transferFee_eq_iff small]
    have exact := Book.share_le small d.amount.toNat
    generalize d.amount.toNat * b.rate d.token / Book.maxFeeBps = share at exact ⊢
    omega
  · intro D l block passes
    exact exists_bridgeAsset_home block passes enough

/-- Of a thousand tokens one percent is lost. -/
theorem transfer_fees_wrap_small : ∃ (b b' : Book) (sender : Address) (d : AssetDeposit)
    (D : Deployment) (l : Ledger) (receipt : DepositReceipt) (s' : BridgeState Book),
      b.apply [.pullTokens d.token sender d.amount d.permit] = .ok (⟨990⟩, b') ∧
      bridgeAsset D sender d ⟨0, .zero⟩ ⟨l, b⟩ = .ok receipt s' ∧ receipt.amount = 990 := by
  obtain ⟨D, l, b, sender, d, filled, rate, -, amount, enough, passes⟩ :=
    exists_passesHome 1000 (show 100 ≤ Book.maxFeeBps by decide)
  obtain ⟨left, pulled, -, ⟨b', applied⟩, deposited⟩ := transfer_fees_wrap filled enough
  obtain ⟨receipt, s', e, moves, run, -, told, leaf⟩ := deposited D l ⟨0, .zero⟩ passes
  rw [amount, rate] at pulled
  obtain rfl : left = 990 := BitVec.eq_of_toNat_eq pulled
  exact ⟨b, b', sender, d, D, l, receipt, s', applied, run, told.trans leaf⟩

/-- Of half of the range of amounts, a fiftieth of a percent is to be lost, and nothing is. -/
theorem transfer_fees_wrap_large : ∃ (b b' : Book) (sender : Address) (d : AssetDeposit)
    (D : Deployment) (l : Ledger) (receipt : DepositReceipt) (s' : BridgeState Book)
    (pulled : Amount), Book.FeesSet b.feeBps ∧ b.rate d.token = 2 ∧ sender ≠ b.escrow ∧
      d.amount.toNat = 2 ^ 255 ∧ d.amount ≤ b.balance d.token sender ∧ d.PassesHome D l sender ∧
      b.apply [.pullTokens d.token sender d.amount d.permit] = .ok (⟨pulled⟩, b') ∧
      bridgeAsset D sender d ⟨0, .zero⟩ ⟨l, b⟩ = .ok receipt s' ∧ receipt.amount = pulled ∧
      pulled = d.amount ∧
      d.amount.toNat - d.amount.toNat * b.rate d.token / Book.maxFeeBps < pulled.toNat := by
  obtain ⟨D, l, b, sender, d, filled, rate, other, amount, enough, passes⟩ :=
    exists_passesHome (BitVec.ofNat 256 (2 ^ 255)) (show 2 ≤ Book.maxFeeBps by decide)
  have half : d.amount.toNat = 2 ^ 255 := by rw [amount]; decide
  have fee : b.transferFee d.token d.amount = 0 := by
    refine BitVec.eq_of_toNat_eq ?_
    rw [Book.toNat_transferFee (filled.rate_le d.token), half, rate]
    decide
  obtain ⟨b', applied⟩ := Book.exists_pull d.permit enough
  obtain ⟨receipt, s', e, moves, run, -, told, leaf⟩ :=
    exists_bridgeAsset_home ⟨0, .zero⟩ passes enough
  have all : d.amount - 0 = d.amount := BitVec.sub_zero _
  rw [fee, all] at applied leaf
  refine ⟨b, b', sender, d, D, l, receipt, s', d.amount, filled, rate, other, half, enough, passes,
    applied, run, told.trans leaf, rfl, ?_⟩
  rw [half, rate]
  decide

end ExitBridge
