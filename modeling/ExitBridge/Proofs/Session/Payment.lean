/-
  The value that calls have the host move.

  A call that succeeds has the host carry out one list of effects at most, and of these at most one
  moves anything. Its amount is the one that the event of the deposit or claim tells of.

  * `resolveAsset_cases`, `Claim.exists_payment`: what takes a deposit's value, and what pays a
    claim.
  * `Step.effects`, `Step.amount`: what the host has carried out, and what the event tells of;
    `Step.effects_of_ok`: what that is, from the call.
  * `Step.idles_or_pays`: the two agree.
  * `Step.Sends`: an asset was deposited; `Step.Sends.resolves`: its origin, and what took it.
  * `Step.Credits`: an asset claim that was honoured, its receipt and its effects.
-/
import ExitBridge.Proofs.Execution.Balance
import ExitBridge.Proofs.Execution.Traced
import ExitBridge.Proofs.Ledger.Asset
import ExitBridge.Proofs.Session.Claims
import ExitBridge.Proofs.Session.Deposits

namespace ExitBridge

open LedgerM

/-! ## Deposits -/

/-- A deposited asset is locked, burned, or pulled; wrapped ether is never pulled. -/
theorem resolveAsset_cases {D : Deployment} {wrapped : WrappedTokens} {metadata : TokenMetadata}
    {sender : Address} {d : AssetDeposit} {asset : ResolvedAsset}
    (h : resolveAsset D wrapped metadata sender d = .ok asset) :
    (asset.effect = .lockNative sender d.amount ∧ asset.amountFromReceipt = false) ∨
      (asset.effect = .burnWrapped d.token sender d.amount ∧ asset.amountFromReceipt = false) ∨
      asset.effect = .pullTokens d.token sender d.amount d.permit ∧
        asset.amountFromReceipt = true ∧ D.weth ≠ some d.token := by
  obtain ⟨_, _, _, effect, pulled⟩ := asset
  cases resolveAsset_resolves h with
  | ether => exact .inl ⟨rfl, rfl⟩
  | gasToken => exact .inl ⟨rfl, rfl⟩
  | weth => exact .inr (.inl ⟨rfl, rfl⟩)
  | wrapped => exact .inr (.inl ⟨rfl, rfl⟩)
  | home _ other => exact .inr (.inr ⟨rfl, rfl, other⟩)

section

variable {σ : Type} [ExecutionHost σ] {D : Deployment} {s s' : BridgeState σ}
  {block : BlockContext}

theorem bridgeAsset_amount {sender : Address} {d : AssetDeposit} {receipt : DepositReceipt}
    (h : bridgeAsset D sender d block s = .ok receipt s') :
    ∃ asset moved host, resolveAsset D s.ledger.wrapped (ExecutionHost.tokenMetadata s.host d.token)
        sender d = .ok asset ∧
      ExecutionHost.apply s.host [asset.effect] = .ok (moved, host) ∧
      receipt.amount = asset.effect.amount moved := by
  simp only [bridgeAsset, bind_eq_ok, requireOperational_eq_ok, requireOtherNetwork_eq_ok,
    requireCapacity_eq_ok, get_eq_ok, ofResult_eq_ok, perform_eq_ok] at h
  obtain ⟨_, _, ⟨-, rfl⟩, _, _, ⟨-, rfl⟩, _, _, ⟨-, -, rfl⟩, _, _, ⟨rfl, rfl⟩, asset, _,
    ⟨resolved, rfl⟩, moved, _, ⟨host, carried, rfl⟩, committed⟩ := h
  refine ⟨asset, moved, host, resolved, carried, (commitDeposit_eq_ok committed).amount.trans ?_⟩
  rcases resolveAsset_cases resolved with ⟨effect, asked⟩ | ⟨effect, asked⟩ | ⟨effect, pulled, -⟩
  · rw [asked, effect]
    rfl
  · rw [asked, effect]
    rfl
  · rw [pulled, effect]
    rfl

theorem exists_bridgeAsset (block : BlockContext) {sender : Address} {d : AssetDeposit}
    {asset : ResolvedAsset} {moved : ExecutionReceipt} {host : σ}
    (operational : s.ledger.emergency = false)
    (leaves : d.destinationNetwork ≠ D.config.networkId) (room : s.ledger.tree.isFull = false)
    (canPublish : d.forceUpdate = true → s.ledger.roots.canPublish = true)
    (resolved : resolveAsset D s.ledger.wrapped (ExecutionHost.tokenMetadata s.host d.token)
      sender d = .ok asset)
    (applied : ExecutionHost.apply s.host [asset.effect] = .ok (moved, host)) :
    ∃ receipt s', bridgeAsset D sender d block s = .ok receipt s' ∧ s'.host = host := by
  let e : BridgeEvent :=
    { kind := .asset
      originNetwork := asset.originNetwork
      originAddress := asset.originAddress
      destinationNetwork := d.destinationNetwork
      destinationAddress := d.destinationAddress
      amount := if asset.amountFromReceipt then moved.pulled else d.amount
      metadata := asset.metadata
      depositCount := UInt32.ofNat s.ledger.tree.count }
  cases committed : commitDeposit D (e.leaf D.hasher) e.metadata d.forceUpdate block
      ⟨s.ledger, host⟩ with
  | error refusal s' => exact (false_of_commitDeposit_error committed room canPublish).elim
  | ok receipt s' =>
    have count := (commitDeposit_eq_ok committed).depositCount.symm
    refine ⟨receipt, s', ?_, (commitDeposit_chain committed count).1⟩
    simp only [bridgeAsset, bind_eq_ok, requireOperational_eq_ok, requireOtherNetwork_eq_ok,
      requireCapacity_eq_ok, get_eq_ok, ofResult_eq_ok, perform_eq_ok]
    exact ⟨(), s, ⟨operational, rfl⟩, (), s, ⟨leaves, rfl⟩, (), s, ⟨room, canPublish, rfl⟩, s, s,
      ⟨rfl, rfl⟩, asset, s, ⟨resolved, rfl⟩, moved, _, ⟨host, applied, rfl⟩, committed⟩

end

/-! ## Claims -/

/-- Of a list of effects one pays the receiver of a claim, and the others move nothing. -/
structure Claim.PaidBy (c : Claim) (effects before : List Effect) (effect : Effect)
    (after : List Effect) : Prop where
  split : effects = before ++ effect :: after
  still : ∀ x ∈ before ++ after, x.Still
  party : effect.party? = some c.destinationAddress
  amount : ∀ receipt, effect.amount receipt = c.amount
  token : c.amount = 0 ∨ ∃ t, effect.releases? = some t ∨ effect.mints? = some t
  pulls : effect.pulls? = none

/-- A claim pays its receiver once. -/
theorem Claim.exists_payment (D : Deployment) (wrapped : WrappedTokens) (c : Claim)
    (kind : LeafKind) :
    ∃ before effect after, c.PaidBy (c.selection D wrapped kind).effects before effect after := by
  have alone {effect : Effect} (party : effect.party? = some c.destinationAddress)
      (amount : ∀ receipt, effect.amount receipt = c.amount)
      (token : c.amount = 0 ∨ ∃ t, effect.releases? = some t ∨ effect.mints? = some t)
      (pulls : effect.pulls? = none) : ∃ before x after, c.PaidBy [effect] before x after :=
    ⟨[], effect, [], rfl, nofun, party, amount, token, pulls⟩
  cases kind with
  | asset =>
    rw [Claim.selection, selectAsset]
    split
    · split
      · exact alone rfl (fun _ => rfl) (.inr ⟨_, .inl rfl⟩) rfl
      · exact alone rfl (fun _ => rfl) (.inr ⟨_, .inr rfl⟩) rfl
    · split
      · exact alone rfl (fun _ => rfl) (.inr ⟨_, .inl rfl⟩) rfl
      · split
        · exact alone rfl (fun _ => rfl) (.inr ⟨_, .inl rfl⟩) rfl
        · dsimp only
          split
          · exact alone rfl (fun _ => rfl) (.inr ⟨_, .inr rfl⟩) rfl
          · -- the wrapped token is deployed first
            refine ⟨[_], _, [], rfl, ?_, rfl, fun _ => rfl, .inr ⟨_, .inr rfl⟩, rfl⟩
            simp [Effect.Still]
  | message =>
    rw [Claim.selection, selectMessage]
    split
    · refine alone rfl (fun _ => rfl) ?_ rfl
      by_cases nothing : c.amount = 0
      · exact .inl nothing
      · exact .inr ⟨.zero, .inl (if_neg nothing)⟩
    · -- the message is delivered without value
      refine ⟨[], _, [_], rfl, ?_, rfl, fun _ => rfl, .inr ⟨_, .inr rfl⟩, rfl⟩
      simp [Effect.Still]

/-! ## Calls -/

/-- Whom a call takes from or pays: the sender of a deposit, the receiver of a claim. -/
def Call.party? : Call → Option Address
  | bridgeAsset sender _ _ => some sender
  | bridgeMessage sender _ _ => some sender
  | bridgeMessageWeth sender _ _ _ => some sender
  | claim _ c => some c.destinationAddress
  | _ => none

/-- A deposit is taken by an effect that moves the amount its event tells of, if there is any. -/
structure Call.TakenBy (D : Deployment) (call : Call) (effect : Effect) : Prop where
  party : effect.party? = call.party?
  token : ∃ t, effect.escrows? = some t ∨ effect.burns? = some t
  notWeth : ∀ t, effect.pulls? = some t → D.weth ≠ some t

section

variable {σ : Type} [ExecutionHost σ] {D : Deployment} {s s' : BridgeState σ} {call : Call}
  {receipt : DepositReceipt} {e : BridgeEvent}

/-- The event of a deposit tells of the amount that its effect moves. -/
theorem Call.exists_taken (h : call.run D s = .ok (.deposit receipt) s')
    (event : call.deposit? D s receipt = some e) :
    (call.effect? D s = none ∧ e.amount = 0) ∨ ∃ effect, call.effect? D s = some effect ∧
      call.TakenBy D effect ∧ ∀ moved host,
        ExecutionHost.apply s.host [effect] = .ok (moved, host) →
          e.amount = effect.amount moved := by
  cases call with
  | bridgeAsset sender d block =>
    obtain ⟨receipt', hrun, same⟩ := map_eq_ok.1 h
    obtain rfl : receipt' = receipt := Answer.deposit.inj same
    obtain ⟨asset, moved, host, resolved, applied, amount⟩ := bridgeAsset_amount hrun
    rw [Call.deposit?, resolved] at event
    obtain rfl := Option.some.inj event
    refine .inr ⟨asset.effect, by rw [Call.effect?, resolved], ?_, fun moved' host' applied' => ?_⟩
    · rcases resolveAsset_cases resolved with ⟨effect, -⟩ | ⟨effect, -⟩ | ⟨effect, -, other⟩
      · rw [effect]
        exact ⟨rfl, ⟨_, .inl rfl⟩, fun _ pulls => by cases pulls⟩
      · rw [effect]
        exact ⟨rfl, ⟨_, .inr rfl⟩, fun _ pulls => by cases pulls⟩
      · rw [effect]
        refine ⟨rfl, ⟨_, .inl rfl⟩, ?_⟩
        rintro _ ⟨⟩
        exact other
    · rw [applied] at applied'
      cases applied'
      exact amount
  | bridgeMessage sender d block =>
    obtain rfl := Option.some.inj event
    rw [Call.effect?]
    split
    · exact .inr ⟨_, rfl, ⟨rfl, ⟨_, .inl rfl⟩, fun _ pulls => by cases pulls⟩, fun _ _ _ => rfl⟩
    · rename_i nothing
      exact .inl ⟨rfl, not_not.1 nothing⟩
  | bridgeMessageWeth sender d amount block =>
    obtain rfl := Option.some.inj event
    obtain ⟨_, hrun, -⟩ := map_eq_ok.1 h
    simp only [ExitBridge.bridgeMessageWeth, bind_eq_ok, requireOperational_eq_ok,
      ofResult_eq_ok] at hrun
    obtain ⟨_, _, ⟨-, rfl⟩, weth, _, ⟨configured, rfl⟩, -⟩ := hrun
    rw [Call.effect?]
    cases hweth : D.weth with
    | none =>
      rw [hweth] at configured
      cases configured
    | some token =>
      exact .inr ⟨_, rfl, ⟨rfl, ⟨_, .inr rfl⟩, fun _ pulls => by cases pulls⟩, fun _ _ _ => rfl⟩
  | _ => cases event

end

/-! ## Steps -/

section

variable {σ : Type} [ExecutionHost σ] {D : Deployment} {m : Step σ}

/-- What the host has carried out during the call. -/
def Step.effects (D : Deployment) (m : Step σ) : List Effect := (m.call.carried D m.before).flatten

/-- What a call has the host carry out when it succeeds. -/
def Call.orders (D : Deployment) (s : BridgeState σ) : Call → List Effect
  | claim kind c => (c.selection D s.ledger.wrapped kind).effects
  | call => (call.effect? D s).toList

theorem Carried.flatten {s : BridgeState σ} {effect? : Option Effect}
    {t : Traced σ} (h : Carried s.traced.host effect? t) :
    t.carried.flatten = effect?.toList := by
  cases effect? with
  | none =>
    obtain rfl : t = s.traced.host := h
    rfl
  | some effect =>
    obtain ⟨receipt, traced⟩ := h
    rw [(Traced.apply_eq_ok traced).2]
    rfl

theorem Call.Deposits.orders {s : BridgeState σ} {call : Call} {receipt : DepositReceipt}
    {e : BridgeEvent} {t : Traced σ} (h : call.Deposits D s.traced receipt e t) :
    t.carried.flatten = call.orders D s := by
  cases call with
  | claim kind c => cases h.event
  | _ => exact h.carried.flatten

theorem Call.Makes.orders {s : BridgeState σ} {call : Call} {answer : Answer} {moves : List Move}
    {t : Traced σ} (h : call.Makes D s.traced answer moves t) :
    t.carried.flatten = call.orders D s := by
  cases h with
  | deposit deposits => exact deposits.orders
  | depositPublished deposits => exact deposits.orders
  | claim honours =>
    obtain ⟨moved, traced⟩ := honours.carried
    rw [(Traced.apply_eq_ok traced).2]
    exact List.append_nil _
  | _ => rfl

theorem Step.exists_traced {answer : Answer} (answered : m.answer D = .ok answer) :
    ∃ t moves, m.call.Makes D m.before.traced answer moves t ∧ (m.after D).host = t.host ∧
      m.call.carried D m.before = t.carried := by
  obtain ⟨t, hrun, forget, trace⟩ := Call.run_traced_of_ok (answer_eq_ok.1 answered)
  obtain ⟨moves, makes, -⟩ := Call.makes_of_ok hrun
  exact ⟨t.host, moves, makes, by rw [← forget]; rfl, trace⟩

/-- The host carries out what a call that succeeds orders, and nothing else. -/
theorem Step.effects_of_ok {answer : Answer} (answered : m.answer D = .ok answer) :
    m.effects D = m.call.orders D m.before := by
  obtain ⟨t, moves, makes, -, trace⟩ := Step.exists_traced answered
  rw [Step.effects, trace]
  exact makes.orders

/-- The amount that the event of the deposit or claim tells of; zero if there is none. -/
def Step.amount (D : Deployment) (m : Step σ) : Amount :=
  match m.deposit? D with
  | some e => e.amount
  | none => (m.claim? D).elim 0 (·.2.event.amount)

/-- A call has no value moved, and its event tells of none. -/
structure Step.Idles (D : Deployment) (m : Step σ) : Prop where
  effects : m.effects D = []
  host : (m.after D).host = m.before.host
  amount : m.amount D = 0
  claim : m.claim? D = none

/-- A call has value moved by one effect, and nothing by those around it; its event tells of the
    amount. -/
structure Step.Pays (D : Deployment) (m : Step σ) (before : List Effect) (effect : Effect)
    (after : List Effect) (receipt : ExecutionReceipt) : Prop where
  effects : m.effects D = before ++ effect :: after
  still : ∀ x ∈ before ++ after, x.Still
  applied : ExecutionHost.apply m.before.host (before ++ effect :: after) =
    .ok (receipt, (m.after D).host)
  amount : m.amount D = effect.amount receipt
  party : effect.party? = m.call.party?
  notWeth : ∀ t, effect.pulls? = some t → D.weth ≠ some t
  taken : ∀ e, m.deposit? D = some e → m.call.TakenBy D effect
  paid : ∀ kind c, m.claim? D = some (kind, c) → c.PaidBy (m.effects D) before effect after

/-- A deposit that is committed has its value taken, if there is any. -/
theorem Step.idles_or_pays_of_deposits {receipt : DepositReceipt} {e : BridgeEvent}
    {t : Traced σ} (answered : m.answer D = .ok (.deposit receipt))
    (deposits : m.call.Deposits D m.before.traced receipt e t)
    (host : (m.after D).host = t.host) (trace : m.call.carried D m.before = t.carried) :
    m.Idles D ∨ ∃ before effect after receipt, m.Pays D before effect after receipt := by
  have event : m.call.deposit? D m.before receipt = some e := deposits.event
  have made : m.deposit? D = some e := by
    rw [Step.deposit?, Step.receipt?, answered]
    exact event
  have amount : m.amount D = e.amount := by rw [Step.amount, made]
  have claim : m.claim? D = none := by
    rw [Step.claim?, answered]
    rfl
  have carried : Carried m.before.traced.host (m.call.effect? D m.before) t := deposits.carried
  rcases Call.exists_taken (answer_eq_ok.1 answered) event with
    ⟨heffect, nothing⟩ | ⟨effect, heffect, taken, moves⟩
  · rw [heffect] at carried
    obtain rfl : t = m.before.traced.host := carried
    exact .inl ⟨by rw [Step.effects, trace]; rfl, host, amount.trans nothing, claim⟩
  · rw [heffect] at carried
    obtain ⟨moved, traced⟩ := carried
    obtain ⟨applied, added⟩ := Traced.apply_eq_ok traced
    refine .inr ⟨[], effect, [], moved, ?_, by simp, ?_, ?_, taken.party, taken.notWeth,
      fun _ _ => taken, by simp [claim]⟩
    · rw [Step.effects, trace, added]
      rfl
    · rw [host]
      exact applied
    · exact amount.trans (moves moved t.host applied)

theorem Step.exists_pays_of_honours {kind : LeafKind} {c : Claim} {receipt : ClaimReceipt}
    {key : ScopeKey} {t : Traced σ} (called : m.call = .claim kind c)
    (answered : m.answer D = .ok (.claim receipt))
    (honours : c.Honours D m.before.traced kind receipt key t)
    (host : (m.after D).host = t.host) :
    ∃ before effect after receipt, m.Pays D before effect after receipt := by
  have deposit : m.deposit? D = none := by
    rw [Step.deposit?, Step.receipt?, answered]
    rfl
  have claim : m.claim? D = some (kind, c) := by
    rw [Step.claim?, answered, called]
    rfl
  have amount : m.amount D = c.amount := by
    rw [Step.amount, deposit, claim]
    rfl
  obtain ⟨moved, traced⟩ := honours.carried
  obtain ⟨applied, -⟩ := Traced.apply_eq_ok traced
  obtain ⟨before, effect, after, paid⟩ := c.exists_payment D m.before.ledger.wrapped kind
  have effects : m.effects D = (c.selection D m.before.ledger.wrapped kind).effects := by
    rw [Step.effects_of_ok answered, called]
    rfl
  refine ⟨before, effect, after, moved, effects.trans paid.split, paid.still, ?_, ?_, ?_, ?_, ?_,
    ?_⟩
  · rw [host, ← paid.split]
    exact applied
  · rw [amount, paid.amount]
  · rw [paid.party, called]
    rfl
  · simp [paid.pulls]
  · simp [deposit]
  · rintro kind' c' claim'
    obtain ⟨rfl, rfl⟩ := Prod.mk.inj (Option.some.inj (claim.symm.trans claim'))
    exact effects ▸ paid

/-- **The value of a deposit or claim is moved once,** in the amount that its event tells of. -/
theorem Step.idles_or_pays {answer : Answer} (answered : m.answer D = .ok answer) :
    m.Idles D ∨ ∃ before effect after receipt, m.Pays D before effect after receipt := by
  obtain ⟨t, moves, makes, host, trace⟩ := Step.exists_traced answered
  have idles (same : t = m.before.traced.host) (receipt : answer.receipt? = none)
      (honoured : m.call.honoured? answer = none) : m.Idles D := by
    have claim : m.claim? D = none := by
      rw [Step.claim?, answered]
      exact honoured
    refine ⟨?_, ?_, ?_, claim⟩
    · rw [Step.effects, trace, same]
      rfl
    · rw [host, same]
      rfl
    · rw [Step.amount, Step.deposit?, Step.receipt?, answered, claim]
      simp only [receipt]
      rfl
  generalize hcall : m.call = call at makes
  generalize ht : t = traced at makes
  cases makes with
  | deposit deposits =>
    subst hcall ht
    exact Step.idles_or_pays_of_deposits answered deposits host trace
  | depositPublished deposits =>
    subst hcall ht
    exact Step.idles_or_pays_of_deposits answered deposits host trace
  | claim honours =>
    subst ht
    exact .inr (Step.exists_pays_of_honours hcall answered honours host)
  | _ => exact .inl (idles ht rfl (by rw [hcall]; rfl))

end

/-! ## Deposits and claims of assets -/

section

variable {σ : Type} [ExecutionHost σ] {D : Deployment} {m : Step σ} {c : Claim}
  {receipt : ClaimReceipt}

/-- An asset was deposited, and this is the event. -/
structure Step.Sends (D : Deployment) (m : Step σ) (sender : Address) (d : AssetDeposit)
    (e : BridgeEvent) : Prop where
  call : ∃ block, m.call = .bridgeAsset sender d block
  event : m.deposit? D = some e

theorem Step.Sends.resolves {sender : Address} {d : AssetDeposit} {e : BridgeEvent}
    (h : m.Sends D sender d e) : ∃ taken fromReceipt,
      d.Resolves D m.before.ledger.wrapped sender e.origin taken fromReceipt ∧
        m.effects D = [taken] := by
  obtain ⟨⟨block, called⟩, event⟩ := h
  obtain ⟨receipt, told, made⟩ := Option.bind_eq_some_iff.1 event
  obtain ⟨answer, answered⟩ : ∃ answer, m.answer D = .ok answer := by
    rw [Step.receipt?] at told
    split at told
    · exact ⟨_, by assumption⟩
    · cases told
  have effects := Step.effects_of_ok answered
  rw [called, Call.deposit?] at made
  split at made
  · cases made
  · rename_i asset resolved
    obtain rfl := Option.some.inj made
    refine ⟨asset.effect, asset.amountFromReceipt, resolveAsset_resolves resolved, ?_⟩
    rw [effects, called, Call.orders, Call.effect?, resolved]
    · rfl
    · rintro _ _ ⟨⟩

/-- An asset claim was honoured, and this is its receipt. -/
structure Step.Credits (D : Deployment) (m : Step σ) (c : Claim) (receipt : ClaimReceipt) :
    Prop where
  call : m.call = .claim .asset c
  answer : m.answer D = .ok (.claim receipt)

namespace Step.Credits

theorem receipt_eq (h : m.Credits D c receipt) :
    receipt = c.receipt (selectAsset D m.before.ledger.wrapped c) := by
  obtain ⟨moves, makes, -⟩ := Call.makes_of_ok (answer_eq_ok.1 h.answer)
  rw [h.call] at makes
  cases makes with
  | claim honours => exact honours.told

theorem effects (h : m.Credits D c receipt) :
    m.effects D = (selectAsset D m.before.ledger.wrapped c).effects := by
  rw [Step.effects_of_ok h.answer, h.call]
  rfl

end Step.Credits

end

end ExitBridge
