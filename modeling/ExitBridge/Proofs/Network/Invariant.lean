/-
  What holds of every ledger of a run, whatever rule the run keeps to.

  * `Member.Invariant`: the ledger of a network, by its deposits and the claims it has honoured.
  * `Moment.invariant`: one call keeps it.
  * `Run.invariant`: it holds of every ledger of a run.
  * `Federation.genesis_fresh`: there can be new ledgers for all networks.
-/
import ExitBridge.Proofs.Ledger.Session
import ExitBridge.Proofs.Network.Run

namespace ExitBridge

/-! ## The invariant -/

/-- The root of the first leaves, as many as there were when it was published, or the zero word that
    stands before the first publication. -/
def PublishedFrom (H : NodeHasher) (leaves : List Digest) (root : Digest) : Prop :=
  root = .zero ∨ ∃ first, first <+: leaves ∧ root = plainRoot H first

theorem PublishedFrom.mono {H : NodeHasher} {leaves more : List Digest} {root : Digest}
    (h : PublishedFrom H leaves root) (le : leaves <+: more) : PublishedFrom H more root := by
  rcases h with zero | ⟨first, hfirst, hroot⟩
  · exact .inl zero
  · exact .inr ⟨first, hfirst.trans le, hroot⟩

/-- The ledger of a network that has taken deposits with these leaves and honoured claims with these
    keys. -/
structure Member.Invariant (H : NodeHasher) (mainnet n : UInt32) (leaves : List Digest)
    (keys : ScopeKey → Prop) (M : Member) : Prop where
  hasher : M.deployment.hasher = H
  networkId : M.deployment.config.networkId = n
  mainnetNetworkId : M.deployment.config.mainnetNetworkId = mainnet
  isAuthority : M.ledger.core.roots.isAuthority = (n == mainnet)
  tree : M.ledger.core.tree.Holds H true leaves
  ownRoot : PublishedFrom H leaves M.ledger.core.roots.ownRoot
  consistent : M.ledger.core.roots.Consistent H
  claimed : ∀ key, M.ledger.core.claimed.isClaimed key = true ↔ keys key

theorem Member.Invariant.isAuthority_roots {H : NodeHasher} {mainnet n : UInt32}
    {leaves : List Digest} {keys : ScopeKey → Prop} {M : Member}
    (h : M.Invariant H mainnet n leaves keys) : M.ledger.roots.isAuthority = (n == mainnet) := by
  rw [← h.isAuthority, ← RootStore.isAuthority_view]
  rfl

/-! ## New ledgers -/

theorem Member.invariant_of_genesis {σ : Type} [ExecutionHost σ] {H : NodeHasher} {mainnet : UInt32}
    {f : Federation} (h : f.Genesis σ H mainnet) {n : UInt32} {M : Member} (hM : f n = some M) :
    M.Invariant H mainnet n [] fun _ => False := by
  obtain ⟨config, derivation, before, after, rfl, rfl, hcreate⟩ := h n M hM
  obtain ⟨valid, hasher, hconfig, hledger⟩ := Deployment.create_eq_ok hcreate
  have role := LedgerConfig.isAuthority_of_validate valid
  replace hledger : M.ledger = Deployment.genesis config := hledger
  have core : M.ledger.core =
      ⟨.empty, .empty, ⟨config.isAggregatorAuthority, .zero, .empty, .zero⟩, false⟩ := by
    rw [hledger, Ledger.core, Deployment.genesis, RootStore.view_ofRole]
  refine ⟨hasher, by rw [hconfig], by rw [hconfig], ?_, ?_, ?_, ?_, fun key => ?_⟩
  all_goals rw [core]
  · exact role
  · exact ExitTree.holds_fresh H true
  · exact .inl rfl
  · rfl
  · simp

/-! ## Ledgers by default -/

/-- The new ledger of a network, as configured by default. -/
def Member.fresh (H : NodeHasher) (mainnet : UInt32) (bridge : Address) (derivation : Derivation)
    (n : UInt32) : Member :=
  let config :=
    if n = mainnet then LedgerConfig.authority n bridge else .replica n mainnet bridge
  ⟨⟨H, config, ⟨bridge, config.wrappedTokenTemplate, derivation⟩, none⟩, Deployment.genesis config⟩

/-- Every network can have a ledger, and any of them can be the mainnet. -/
theorem Federation.genesis_fresh {σ : Type} [ExecutionHost σ] (H : NodeHasher) (mainnet : UInt32)
    {bridge : Address} (derivation : Derivation) (host : σ) (h : bridge ≠ .zero) :
    Federation.Genesis σ H mainnet fun n => some (.fresh H mainnet bridge derivation n) := by
  intro n M hM
  obtain rfl := Option.some.inj hM
  by_cases hn : n = mainnet
  · subst hn
    refine ⟨.authority n bridge, derivation, host, host, rfl, rfl, ?_⟩
    rw [Deployment.create_of_validate (LedgerConfig.validate_authority n h) rfl, Member.fresh,
      if_pos rfl]
    rfl
  · refine ⟨.replica n mainnet bridge, derivation, host, host, rfl, rfl, ?_⟩
    rw [Deployment.create_of_validate (LedgerConfig.validate_replica h hn) rfl, Member.fresh,
      if_neg hn]
    rfl

/-! ## One call -/

section Moment

variable {σ : Type} [ExecutionHost σ] {H : NodeHasher} {mainnet n : UInt32} {leaves : List Digest}
  {keys : ScopeKey → Prop} {m : Moment σ}

/-- A call succeeds and does what such calls do, or fails and changes nothing. -/
theorem Moment.advance_or_same (m : Moment σ) :
    (∃ answer, m.answer = .ok answer ∧
      Advance m.member.deployment ⟨m.member.ledger, m.host⟩ m.call answer m.after) ∨
    ∃ e, m.answer = .error e ∧ m.after = m.member.ledger := by
  cases h : m.call.run m.member.deployment ⟨m.member.ledger, m.host⟩ with
  | ok answer s =>
    left
    refine ⟨answer, by simp only [Moment.answer, h], ?_⟩
    rw [show m.after = s.ledger by simp only [Moment.after, h]]
    exact Call.run_ok h
  | error e s =>
    right
    refine ⟨e, by simp only [Moment.answer, h], ?_⟩
    rw [show m.after = s.ledger by simp only [Moment.after, h]]
    exact Call.run_error h

theorem Moment.deposited_of_deposit? {e : BridgeEvent} (h : m.deposit? = some e) :
    ∃ receipt, m.answer = .ok (.deposit receipt) ∧ e.depositCount = receipt.depositCount ∧
      Deposited m.member.deployment (e.leaf m.member.deployment.hasher) m.call.publishes
        m.member.ledger receipt m.after := by
  rw [Moment.deposit?] at h
  obtain ⟨answer, hanswer, advance⟩ | ⟨_, hanswer, -⟩ := m.advance_or_same
  · generalize hcall : m.call = call at advance h
    cases advance with
    | deposit event deposited =>
      rw [hanswer] at h
      obtain rfl := Option.some.inj (event.symm.trans h)
      exact ⟨_, hanswer, Call.depositCount_of_deposit? event, deposited⟩
    | claim => simp [hanswer] at h
    | publish => simp [hanswer] at h
    | fold => simp [hanswer] at h
    | learn => simp [hanswer] at h
    | toggle => simp [hanswer] at h
  · simp [hanswer] at h

theorem Moment.marked_of_claim? {kind : LeafKind} {c : Claim} (h : m.claim? = some (kind, c)) :
    ∃ key, verifyClaim m.member.deployment m.member.ledger.roots kind c = .ok key ∧
      Marked key m.member.ledger m.after := by
  rw [Moment.claim?] at h
  obtain ⟨answer, hanswer, advance⟩ | ⟨_, hanswer, -⟩ := m.advance_or_same
  · generalize hcall : m.call = call at advance h
    cases advance with
    | claim verified marked =>
      rw [hanswer] at h
      obtain ⟨rfl, rfl⟩ := Prod.mk.inj (Option.some.inj h)
      exact ⟨_, verified, marked⟩
    | deposit => simp [hanswer] at h
    | publish => simp [hanswer] at h
    | fold => simp [hanswer] at h
    | learn => simp [hanswer] at h
    | toggle => simp [hanswer] at h
  · simp [hanswer] at h

/-- The leaf that a call adds to the ledger that is called. -/
def Moment.leaf? (H : NodeHasher) (m : Moment σ) : Option Digest :=
  m.deposit?.map fun e => (e.leaf H).hash H

/-- The key that a call marks. -/
def Moment.Marks (mainnet : UInt32) (m : Moment σ) (key : ScopeKey) : Prop :=
  ∃ kind c, m.claim? = some (kind, c) ∧ c.globalIndex.scopeKey mainnet = .ok key

theorem Member.Invariant.of_core {M : Member} {l' : Ledger} {roots : RootView} {emergency : Bool}
    (h : M.Invariant H mainnet n leaves keys)
    (core : l'.core = { M.ledger.core with roots := roots, emergency := emergency })
    (isAuthority : roots.isAuthority = M.ledger.core.roots.isAuthority)
    (ownRoot : PublishedFrom H leaves roots.ownRoot) (consistent : roots.Consistent H) :
    Member.Invariant H mainnet n leaves keys ⟨M.deployment, l'⟩ := by
  refine ⟨h.hasher, h.networkId, h.mainnetNetworkId, ?_, ?_, ?_, ?_, fun key => ?_⟩
  all_goals simp only [core]
  · exact isAuthority.trans h.isAuthority
  · exact h.tree
  · exact ownRoot
  · exact consistent
  · exact h.claimed key

theorem Member.Invariant.of_deposited {M : Member} {l' : Ledger} {leaf : Leaf} {publishes : Bool}
    {receipt : DepositReceipt} (h : M.Invariant H mainnet n leaves keys)
    (deposited : Deposited M.deployment leaf publishes M.ledger receipt l') :
    Member.Invariant H mainnet n (leaves ++ [leaf.hash H]) keys ⟨M.deployment, l'⟩ := by
  obtain rfl := h.hasher
  obtain ⟨tree, -⟩ := ExitTree.holds_of_append h.tree deposited.append
  refine ⟨rfl, h.networkId, h.mainnetNetworkId, ?_, ?_, ?_, ?_, fun key => ?_⟩
  all_goals simp only [deposited.core]
  · split
    · exact h.isAuthority
    · exact h.isAuthority
  · exact tree
  · split
    · exact .inr ⟨_, List.prefix_rfl, ExitTree.root_of_holds tree⟩
    · exact h.ownRoot.mono (List.prefix_append _ _)
  · split
    · exact h.consistent
    · exact h.consistent
  · exact h.claimed key

theorem Member.Invariant.of_marked {M : Member} {l' : Ledger} {key : ScopeKey}
    (h : M.Invariant H mainnet n leaves keys) (marked : Marked key M.ledger l') :
    Member.Invariant H mainnet n leaves (fun k => keys k ∨ k = key) ⟨M.deployment, l'⟩ := by
  refine ⟨h.hasher, h.networkId, h.mainnetNetworkId, ?_, ?_, ?_, ?_, fun k => ?_⟩
  all_goals simp only [marked.core]
  · exact h.isAuthority
  · exact h.tree
  · exact h.ownRoot
  · exact h.consistent
  · exact (ReplayGuard.isClaimed_mark marked.mark k).trans (or_congr_left (h.claimed k))

/-- A call that makes no deposit and honours no claim adds no leaf and marks no key. -/
theorem Member.Invariant.of_quiet {M : Member} (h : M.Invariant H mainnet n leaves keys)
    (deposit : m.deposit? = none) (claim : m.claim? = none) :
    M.Invariant H mainnet n (leaves ++ (m.leaf? H).toList)
      fun key => keys key ∨ m.Marks mainnet key := by
  rw [Moment.leaf?, deposit, Option.map_none, Option.toList_none, List.append_nil]
  refine { h with claimed := fun key => (h.claimed key).trans ?_ }
  simp [Moment.Marks, claim]

/-- **One call keeps the invariant**, with the leaf it adds and the key it marks. -/
theorem Moment.invariant (h : m.member.Invariant H mainnet n leaves keys) :
    Member.Invariant H mainnet n (leaves ++ (m.leaf? H).toList)
      (fun key => keys key ∨ m.Marks mainnet key) ⟨m.member.deployment, m.after⟩ := by
  obtain rfl := h.hasher
  obtain ⟨answer, hanswer, advance⟩ | ⟨e, hanswer, hafter⟩ := m.advance_or_same
  · generalize hcall : m.call = call at advance
    cases advance with
    | deposit event deposited =>
      rename_i receipt e
      have deposit : m.deposit? = some e := by simp only [Moment.deposit?, hanswer, hcall, event]
      have claim : m.claim? = none := by simp only [Moment.claim?, hanswer]
      have next := h.of_deposited deposited
      rw [Moment.leaf?, deposit, Option.map_some, Option.toList_some]
      refine { next with claimed := fun key => (next.claimed key).trans ?_ }
      simp [Moment.Marks, claim]
    | claim verified marked =>
      rename_i kind c receipt key
      have deposit : m.deposit? = none := by simp only [Moment.deposit?, hanswer]
      have claim : m.claim? = some (kind, c) := by
        simp only [Moment.claim?, hanswer, hcall, Call.claim?]
      obtain ⟨-, -, -, hkey⟩ := verifyClaim_eq_ok.1 verified
      rw [h.mainnetNetworkId] at hkey
      have next := h.of_marked marked
      rw [Moment.leaf?, deposit, Option.map_none, Option.toList_none, List.append_nil]
      refine { next with claimed := fun key' => (next.claimed key').trans (or_congr_right ?_) }
      constructor
      · rintro rfl
        exact ⟨kind, c, claim, hkey⟩
      · rintro ⟨kind', c', hclaim, hkey'⟩
        rw [claim] at hclaim
        cases hclaim
        exact Except.ok.inj (hkey'.symm.trans hkey)
    | publish core learns hash =>
      refine Member.Invariant.of_quiet (h.of_core core rfl ?_ h.consistent)
        (by simp only [Moment.deposit?, hanswer]) (by simp only [Moment.claim?, hanswer])
      exact .inr ⟨leaves, List.prefix_rfl, ExitTree.root_of_holds h.tree⟩
    | fold authority set core learns =>
      exact Member.Invariant.of_quiet (h.of_core core rfl h.ownRoot rfl)
        (by simp only [Moment.deposit?, hanswer]) (by simp only [Moment.claim?, hanswer])
    | learn silent replica core learns =>
      exact Member.Invariant.of_quiet (h.of_core core rfl h.ownRoot h.consistent)
        (by simp only [Moment.deposit?, hanswer]) (by simp only [Moment.claim?, hanswer])
    | toggle silent core learns =>
      exact Member.Invariant.of_quiet (h.of_core core rfl h.ownRoot h.consistent)
        (by simp only [Moment.deposit?, hanswer]) (by simp only [Moment.claim?, hanswer])
  · rw [hafter]
    exact h.of_quiet (by simp only [Moment.deposit?, hanswer])
      (by simp only [Moment.claim?, hanswer])

theorem Moment.depositCount (h : m.member.Invariant H mainnet n leaves keys) {e : BridgeEvent}
    (deposit : m.deposit? = some e) : e.depositCount = UInt32.ofNat leaves.length := by
  obtain ⟨receipt, -, hcount, deposited⟩ := m.deposited_of_deposit? deposit
  rw [hcount, deposited.depositCount]
  exact congrArg _ h.tree.count

/-- A publication publishes the root of all leaves so far, and the authority answers with the global
    exit root that it makes. -/
theorem Moment.publication (h : m.member.Invariant H mainnet n leaves keys) {answer : Answer}
    (hanswer : m.answer = .ok answer) (publishes : m.call.publishes = true) :
    m.after.core.roots.ownRoot = plainRoot H (leaves ++ (m.leaf? H).toList) ∧
      answer.globalExitRoot? = m.after.core.roots.halves?.map (·.hash H) := by
  have after := (m.invariant h).tree
  obtain rfl := h.hasher
  obtain ⟨_, hanswer', advance⟩ | ⟨_, hanswer', -⟩ := m.advance_or_same
  · obtain rfl := Except.ok.inj (hanswer.symm.trans hanswer')
    generalize hcall : m.call = call at advance publishes
    cases advance with
    | deposit event deposited =>
      refine ⟨?_, deposited.globalExitRoot publishes⟩
      rw [deposited.core, if_pos publishes, ← ExitTree.root_of_holds after]
      rfl
    | publish core learns hash =>
      refine ⟨?_, hash⟩
      rw [← ExitTree.root_of_holds after, core]
      rfl
    | claim => cases publishes
    | fold => cases publishes
    | learn silent => cases silent.symm.trans publishes
    | toggle silent => cases silent.symm.trans publishes
  · rw [hanswer] at hanswer'
    cases hanswer'

end Moment

/-! ## Runs -/

section Run

variable {σ : Type} [ExecutionHost σ] {H : NodeHasher} {mainnet n : UInt32}
  {rule : List Federation → UInt32 → Call → Prop} {past : List (Moment σ)} {f : Federation}
  {M : Member}

theorem leavesOf_snoc (H : NodeHasher) (past : List (Moment σ)) (m : Moment σ) (n : UInt32) :
    leavesOf H (past ++ [m]) n =
      leavesOf H past n ++ (if m.network = n then m.leaf? H else none).toList := by
  rw [leavesOf, depositsOf_snoc, List.map_append]
  congr 1
  by_cases called : m.network = n
  · rw [if_pos called, if_pos called, Moment.leaf?]
    cases m.deposit? <;> rfl
  · rw [if_neg called, if_neg called]
    rfl

theorem keysOf_snoc {m : Moment σ} {key : ScopeKey} :
    KeysOf mainnet (past ++ [m]) n key ↔
      KeysOf mainnet past n key ∨ m.network = n ∧ m.Marks mainnet key := by
  simp only [KeysOf, Moment.Marks, List.mem_append, List.mem_singleton]
  constructor
  · rintro ⟨m', old | rfl, hn, marks⟩
    · exact .inl ⟨m', old, hn, marks⟩
    · exact .inr ⟨hn, marks⟩
  · rintro (⟨m', old, hn, marks⟩ | ⟨hn, marks⟩)
    · exact ⟨m', .inl old, hn, marks⟩
    · exact ⟨m, .inr rfl, hn, marks⟩

/-- **Every ledger of a run** keeps the invariant. -/
theorem Run.invariant (h : Run H mainnet rule past f) (hM : f n = some M) :
    M.Invariant H mainnet n (leavesOf H past n) (KeysOf mainnet past n) := by
  induction h generalizing n M with
  | start genesis =>
    have fresh := Member.invariant_of_genesis genesis hM
    refine { fresh with claimed := fun key => (fresh.claimed key).trans ?_ }
    simp [KeysOf]
  | step m run called allowed ih =>
    rw [leavesOf_snoc]
    rw [Moment.result] at hM
    by_cases hn : n = m.network
    · subst hn
      rw [if_pos rfl] at hM ⊢
      cases hM
      have next := m.invariant (ih called)
      refine { next with claimed := fun key => (next.claimed key).trans ?_ }
      rw [keysOf_snoc]
      simp
    · rw [if_neg hn] at hM
      rw [if_neg (Ne.symm hn), Option.toList_none, List.append_nil]
      have same := ih hM
      refine { same with claimed := fun key => (same.claimed key).trans ?_ }
      rw [keysOf_snoc]
      simp [Ne.symm hn]

theorem Run.depositCount (h : Run H mainnet rule past f) {i : Nat} {e : BridgeEvent}
    (he : (depositsOf past n)[i]? = some e) : e.depositCount = UInt32.ofNat i := by
  induction h with
  | start => simp [depositsOf] at he
  | step m run called allowed ih =>
    rename_i before
    rw [depositsOf_snoc] at he
    rcases Nat.lt_or_ge i (depositsOf before n).length with old | new
    · rw [List.getElem?_append_left old] at he
      exact ih he
    · rw [List.getElem?_append_right new] at he
      by_cases hn : m.network = n
      · subst hn
        rw [if_pos rfl] at he
        cases deposit : m.deposit? with
        | none => simp [deposit] at he
        | some e' =>
          rw [deposit, Option.toList_some, List.getElem?_singleton] at he
          split at he
          · cases he
            rw [m.depositCount (run.invariant called) deposit, leavesOf, List.length_map,
              show i = (depositsOf before m.network).length by omega]
          · cases he
      · simp [hn] at he

end Run

end ExitBridge
