/-
  Every published deposit can be claimed.

  * `BridgeEvent.claim`: the claim of a deposit, given its paths and the exit roots they lead to.
  * `Published`: the root of an exit tree with so many leaves was published in a run.
  * `Member.Accepts`: a ledger verifies a claim, and admits it unless it was honoured before.
  * `Member.Accepts.honoured`: then a message is delivered, as far as its host does so.
  * `deposits_claimable`: the paths exist, and the deposit's ledger of destination accepts the
    claim, for deposits of the mainnet and for those of rollups.
-/
import ExitBridge.Execution.Host
import ExitBridge.Proofs.ExitRoot.Rollups
import ExitBridge.Proofs.Merkle.Past
import ExitBridge.Proofs.Network.Feed

namespace ExitBridge

/-! ## Claims of deposits -/

/-- The claim of a deposit, under two exit roots. -/
def BridgeEvent.claim (e : BridgeEvent) (globalIndex : GlobalIndex)
    (localPath rollupPath : InclusionPath) (mainnetExitRoot rollupExitRoot : Digest) : Claim :=
  { localPath := localPath
    rollupPath := rollupPath
    globalIndex := globalIndex
    mainnetExitRoot := mainnetExitRoot
    rollupExitRoot := rollupExitRoot
    originNetwork := e.originNetwork
    originAddress := e.originAddress
    destinationNetwork := e.destinationNetwork
    destinationAddress := e.destinationAddress
    amount := e.amount
    metadata := e.metadata }

section Run

variable {σ : Type} [ExecutionHost σ]

/-- The root of the network's exit tree with `count` leaves has been published by a call that left
    the store like this and told of this global exit root. -/
def Published (past : List (Moment σ)) (n : UInt32) (count : Nat) (roots : RootStore)
    (told : Option Digest) : Prop :=
  ∃ m ∈ past, m.network = n ∧ m.call.publishes = true ∧
    (∃ answer, m.answer = .ok answer ∧ answer.globalExitRoot? = told) ∧
    m.after.tree.count = count ∧ m.after.roots = roots

/-- The ledger of a network verifies the claim, and over any host it admits it, unless the ledger is
    out of operation or has honoured a claim of the same leaf before. -/
structure Member.Accepts (mainnet n : UInt32) (past : List (Moment σ)) (M : Member)
    (kind : LeafKind) (c : Claim) (key : ScopeKey) : Prop where
  verified : verifyClaim M.deployment M.ledger.roots kind c = .ok key
  admitted : M.ledger.emergency = false → ¬ KeysOf mainnet past n key → ∀ host : σ,
    admitClaim M.deployment kind c ⟨M.ledger, host⟩ = .ok key ⟨M.ledger, host⟩

variable {H : NodeHasher} {mainnet n : UInt32} {rule : List Federation → UInt32 → Call → Prop}
  {past : List (Moment σ)} {f : Federation} {M : Member}

/-! ## Published roots -/

/-- A published root is that of the first leaves, and the authority tells of the global exit root
    that it makes. -/
theorem Run.ownRoot_of_published (h : Run H mainnet rule past f) {count : Nat} {roots : RootStore}
    {told : Option Digest} (hpub : Published past n count roots told) :
    count ≤ (leavesOf H past n).length ∧
      roots.view.ownRoot = plainRoot H ((leavesOf H past n).take count) ∧
      told = roots.view.halves?.map (·.hash H) := by
  obtain ⟨m, hmem, rfl, publishes, ⟨answer, hanswer, rfl⟩, rfl, rfl⟩ := hpub
  obtain ⟨earlier, later, rfl⟩ := List.append_of_mem hmem
  obtain ⟨run, called, -⟩ := h.cut rfl
  have before := run.invariant called
  obtain ⟨root, told⟩ := m.publication before hanswer publishes
  have count : m.after.tree.count = _ := (m.invariant before).tree.count
  have leaves : leavesOf H (earlier ++ [m]) m.network =
      leavesOf H earlier m.network ++ (m.leaf? H).toList := by
    rw [leavesOf_snoc, if_pos rfl]
  have first := leavesOf_mono H
    (show earlier ++ [m] <+: earlier ++ m :: later from ⟨later, by simp⟩) m.network
  rw [← leaves] at count root
  have taken := List.prefix_iff_eq_take.1 first
  rw [← count] at taken
  exact ⟨count ▸ first.length_le, taken ▸ root, told⟩

/-- Every index below a count of leaves has its deposit, and the deposit a path, as of that count,
    that leads to the root of the first leaves. -/
theorem Run.exists_deposit (h : Run H mainnet rule past f) (hM : f n = some M) {count : Nat}
    {i : UInt32} (hcount : count ≤ (leavesOf H past n).length) (hi : i.toNat < count) :
    ∃ e path, (depositsOf past n)[i.toNat]? = some e ∧
      M.ledger.pathAt M.deployment i count = .ok path ∧
      path.fold H i ((e.leaf H).hash H) = plainRoot H ((leavesOf H past n).take count) := by
  have holds := h.invariant hM
  obtain rfl := holds.hasher
  rw [leavesOf, List.length_map] at hcount
  refine ⟨_, _, List.getElem?_eq_getElem (Nat.lt_of_lt_of_le hi hcount),
    ExitTree.pathAt_of_holds holds.tree (by rwa [leavesOf, List.length_map]) hi, fold_plainPath ?_⟩
  rw [List.getElem?_take_of_lt hi, leavesOf, List.getElem?_map,
    List.getElem?_eq_getElem (Nat.lt_of_lt_of_le hi hcount), Option.map_some]

theorem Published.first (H : NodeHasher) (host : σ) :
    Published [.firstMessage H host, .firstFold H host] 1 1
      (.replica ⟨∅, (Moment.firstMessage H host).after.tree.root H⟩) none :=
  ⟨.firstMessage H host, List.mem_cons_self, rfl, rfl, ⟨_, rfl, rfl⟩, rfl, rfl⟩

/-! ## Acceptance -/

/-- What a claim needs to be accepted: its destination, a known global exit root, its paths, and a
    key. -/
theorem Run.accepts (h : Run H mainnet rule past f) (hM : f n = some M) {kind : LeafKind}
    {c : Claim} {key : ScopeKey} (destination : c.destinationNetwork = n)
    (known : M.ledger.roots.isKnown (c.globalExitRoot H) = true)
    (proven : c.provesLeaf H ((c.leaf H kind).hash H) = true)
    (hkey : c.globalIndex.scopeKey mainnet = .ok key) : M.Accepts mainnet n past kind c key := by
  have holds := h.invariant hM
  obtain rfl := holds.hasher
  have verified : verifyClaim M.deployment M.ledger.roots kind c = .ok key := by
    rw [verifyClaim_eq_ok, holds.networkId, holds.mainnetNetworkId]
    exact ⟨destination, known, proven, hkey⟩
  refine ⟨verified, fun operational unclaimed host => ?_⟩
  refine admitClaim_eq_ok.2 ⟨operational, verified, ?_, rfl⟩
  exact Bool.eq_false_iff.2 fun claimed => unclaimed ((holds.claimed key).1 claimed)

theorem Member.Accepts.honoured {c : Claim} {key : ScopeKey} {delivery : ExecutionReceipt}
    {host host' : σ} (h : M.Accepts mainnet n past .message c key)
    (operational : M.ledger.emergency = false) (unclaimed : ¬ KeysOf mainnet past n key)
    (delivers : ExecutionHost.apply host (selectMessage M.deployment c).2 = .ok (delivery, host')) :
    Moment.claim? ⟨f, n, M, host, .claim .message c⟩ = some (.message, c) := by
  obtain ⟨receipt, s', hrun⟩ :=
    exists_claimMessage (h.admitted operational unclaimed host) delivers
  have run : Call.run M.deployment (.claim .message c) ⟨M.ledger, host⟩ =
      .ok (.claim receipt) s' := LedgerM.map_eq_ok.2 ⟨receipt, hrun, rfl⟩
  simp only [Moment.claim?, Moment.answer, run, Call.claim?]

/-- A deposit of the mainnet can be claimed under the exit roots of a publication above it. -/
theorem Run.mainnet_claimable (h : Run H mainnet rule past f) {count : Nat} {a : RootAuthority}
    {told : Option Digest} {i : UInt32} {A : Member}
    (hpub : Published past mainnet count (.authority a) told) (hi : i.toNat < count)
    (hA : f mainnet = some A) :
    ∃ e path, (depositsOf past mainnet)[i.toNat]? = some e ∧
      A.ledger.pathAt A.deployment i count = .ok path ∧
      ∃ root, told = some root ∧ ∀ B, f e.destinationNetwork = some B →
        B.ledger.roots.isKnown root = true → ∀ rollupPath,
          B.Accepts mainnet e.destinationNetwork past e.kind
            (e.claim (.mainnet i) path rollupPath a.mainnetExitRoot a.rollupExitRoot)
            (.ofParts true mainnet i) := by
  obtain ⟨hcount, root, told⟩ := h.ownRoot_of_published hpub
  obtain ⟨e, path, he, hpath, hfold⟩ := h.exists_deposit hA hcount hi
  refine ⟨e, path, he, hpath, _, told, fun B hB known rollupPath => h.accepts hB rfl known ?_ rfl⟩
  exact beq_iff_eq.2 (hfold.trans root.symm)

/-- A deposit of a rollup can be claimed under the authority's exit roots while the authority holds
    the root of a publication above it. -/
theorem Run.rollup_claimable (h : Run H mainnet rule past f) {count : Nat} {r : RootReplica}
    {a : RootAuthority} {told : Option Digest} {i j : UInt32} {R A : Member}
    (network : rollupNetworkId j = .ok n) (hpub : Published past n count (.replica r) told)
    (hi : i.toNat < count) (hR : f n = some R) (hA : f mainnet = some A)
    (authority : A.ledger.roots = .authority a)
    (stored : a.rollups.get? j = some r.lastLocalExitRoot) :
    ∃ e path rollupPath, (depositsOf past n)[i.toNat]? = some e ∧
      R.ledger.pathAt R.deployment i count = .ok path ∧
      A.ledger.rollupPath A.deployment j = .ok rollupPath ∧
      ∀ B, f e.destinationNetwork = some B →
        B.ledger.roots.isKnown
          (GlobalExitRoot.hash H ⟨a.mainnetExitRoot, a.rollupExitRoot⟩) = true →
        B.Accepts mainnet e.destinationNetwork past e.kind
          (e.claim (.rollup j i) path rollupPath a.mainnetExitRoot a.rollupExitRoot)
          (.ofParts false n i) := by
  obtain ⟨hcount, root, -⟩ := h.ownRoot_of_published hpub
  obtain ⟨e, path, he, hpath, hfold⟩ := h.exists_deposit hR hcount hi
  have holds := h.invariant hA
  obtain rfl := holds.hasher
  have consistent : a.rollupExitRoot = a.rollups.root A.deployment.hasher := by
    have := holds.consistent
    rwa [Ledger.core, authority] at this
  obtain ⟨rollupPath, hrollup, above⟩ := a.rollups.exists_path (H := A.deployment.hasher) stored
  refine ⟨e, path, rollupPath, he, hpath, ?_, fun B hB known => h.accepts hB rfl known ?_ ?_⟩
  · rw [Ledger.rollupPath, authority]
    exact hrollup
  · have reached : path.fold A.deployment.hasher i _ = r.lastLocalExitRoot := hfold.trans root.symm
    exact beq_iff_eq.2 ((congrArg _ reached).trans (above.trans consistent.symm))
  · show GlobalIndex.scopeKey mainnet (.rollup j i) = _
    rw [GlobalIndex.scopeKey]
    simp [GlobalIndex.rollup, network, bind, Except.bind, pure, Except.pure]

/-- **Every published deposit can be claimed**, however both trees grow afterwards. A deposit of the
    mainnet below the count of a publication is accepted, with its path as of that count and the
    exit roots of that publication, by the ledger of its destination once that knows their global
    exit root. A deposit of a rollup is accepted so with the authority's current exit roots, as long
    as the authority holds the root that the rollup published. -/
theorem deposits_claimable (h : Run H mainnet rule past f) :
    (∀ count a told i A, Published past mainnet count (.authority a) told → i.toNat < count →
      f mainnet = some A →
      ∃ e path, (depositsOf past mainnet)[i.toNat]? = some e ∧
        A.ledger.pathAt A.deployment i count = .ok path ∧
        ∃ root, told = some root ∧ ∀ B, f e.destinationNetwork = some B →
          B.ledger.roots.isKnown root = true → ∀ rollupPath,
            B.Accepts mainnet e.destinationNetwork past e.kind
              (e.claim (.mainnet i) path rollupPath a.mainnetExitRoot a.rollupExitRoot)
              (.ofParts true mainnet i)) ∧
    (∀ count r a told i j n R A, rollupNetworkId j = .ok n →
      Published past n count (.replica r) told → i.toNat < count → f n = some R →
      f mainnet = some A → A.ledger.roots = .authority a →
      a.rollups.get? j = some r.lastLocalExitRoot →
      ∃ e path rollupPath, (depositsOf past n)[i.toNat]? = some e ∧
        R.ledger.pathAt R.deployment i count = .ok path ∧
        A.ledger.rollupPath A.deployment j = .ok rollupPath ∧
        ∀ B, f e.destinationNetwork = some B →
          B.ledger.roots.isKnown
            (GlobalExitRoot.hash H ⟨a.mainnetExitRoot, a.rollupExitRoot⟩) = true →
          B.Accepts mainnet e.destinationNetwork past e.kind
            (e.claim (.rollup j i) path rollupPath a.mainnetExitRoot a.rollupExitRoot)
            (.ofParts false n i)) :=
  ⟨fun _ _ _ _ _ hpub hi hA => h.mainnet_claimable hpub hi hA,
    fun _ _ _ _ _ _ _ _ _ network hpub hi hR hA authority stored =>
      h.rollup_claimable network hpub hi hR hA authority stored⟩

/-- The first message of network 1 can be claimed on network 0. -/
theorem deposits_claimable_first : ∃ A c,
    (Moment.firstFold .keccak Host.accepting).result 0 = some A ∧
      A.Accepts 0 0 [.firstMessage .keccak Host.accepting, .firstFold .keccak Host.accepting]
        .message c (.ofParts false 1 0) := by
  obtain ⟨a, hroots, stored, known, -⟩ := Moment.exists_firstFold .keccak Host.accepting
  have hpub := Published.first .keccak Host.accepting
  obtain ⟨e, path, rollupPath, he, -, -, accepts⟩ :=
    (deposits_claimable (Run.first .keccak Host.accepting)).2 1 _ a none 0 0 1 _
      ⟨_, (Moment.firstFold .keccak Host.accepting).after⟩ rfl hpub Nat.one_pos rfl rfl hroots
      stored
  obtain rfl := Option.some.inj he
  refine ⟨_, _, rfl, accepts _ rfl ?_⟩
  exact (congrArg (RootStore.isKnown · _) hroots).trans known

end Run

end ExitBridge
