/-
  Every claim that is honoured is a deposit's, and no deposit is claimed twice.

  No property of the hash is assumed. What follows from a claim's paths follows unless the hash was
  broken by the run itself: two different byte strings that were hashed for it have one hash, or one
  has the hash zero, which stands for what is not there.

  * `GlobalIndex.scopeKey_eq_ok_iff`: a key stands for a flag, a source and a leaf index.
  * `Hashed`: the byte strings that are hashed for a run: for its deposits, for the nodes of its
    exit trees and rollup trees, for its global exit roots, and for checking its claims.
  * `Broken`: a collision or a zero among byte strings.
  * `BridgeEvent.Describes`: a deposit's event tells of what a claim asks for, field by field.
  * `Claim.Backed`: the claim's leaf stands in its source's exit tree, put there by a deposit.
  * `claims_sound`: unless the hash is broken, honoured claims are backed and made once.
-/
import Mathlib.Tactic.MkIffOfInductiveProp
import ExitBridge.Proofs.Leaf
import ExitBridge.Proofs.Merkle.Past
import ExitBridge.Proofs.Network.Completeness
import ExitBridge.Proofs.Result

namespace ExitBridge

/-! ## Claims and what is hashed for them -/

/-- The network that a global index points into. -/
def GlobalIndex.source (mainnet : UInt32) (g : GlobalIndex) : UInt32 :=
  if g.mainnetFlag then mainnet else g.rollupIndex + 1

theorem GlobalIndex.source_of_mainnet {mainnet : UInt32} {g : GlobalIndex}
    (flag : g.mainnetFlag = true) : g.source mainnet = mainnet := by
  rw [source, if_pos flag]

theorem GlobalIndex.source_of_rollup {mainnet id : UInt32} {g : GlobalIndex}
    (flag : g.mainnetFlag = false) (hid : rollupNetworkId g.rollupIndex = .ok id) :
    g.source mainnet = id := by
  rw [source, flag, if_neg (by decide)]
  rw [rollupNetworkId] at hid
  split at hid
  · exact Except.ok.inj hid
  · cases hid

theorem GlobalIndex.key_of_scopeKey {mainnet : UInt32} {g : GlobalIndex} {key : ScopeKey}
    (h : g.scopeKey mainnet = .ok key) :
    key = .ofParts g.mainnetFlag (g.source mainnet) g.leafIndex := by
  rw [scopeKey] at h
  cases flag : g.mainnetFlag with
  | true =>
    rw [flag, if_pos rfl] at h
    rw [source_of_mainnet flag]
    exact (Except.ok.inj h).symm
  | false =>
    rw [flag, if_neg Bool.false_ne_true, except_bind_eq_ok] at h
    obtain ⟨id, hid, hkey⟩ := h
    rw [source_of_rollup flag hid]
    exact (Except.ok.inj hkey).symm

/-- The flag says which ledger the source is, and so the key of a claim follows from its flag, its
    source and its leaf index. -/
theorem GlobalIndex.scopeKey_congr {mainnet : UInt32} {a b : GlobalIndex}
    (flag : a.mainnetFlag = b.mainnetFlag) (source : a.source mainnet = b.source mainnet)
    (leafIndex : a.leafIndex = b.leafIndex) : a.scopeKey mainnet = b.scopeKey mainnet := by
  rw [GlobalIndex.source, GlobalIndex.source, ← flag] at source
  rw [scopeKey, scopeKey, ← flag, leafIndex]
  cases flagged : a.mainnetFlag with
  | true => rfl
  | false =>
    rw [flagged, if_neg Bool.false_ne_true, if_neg Bool.false_ne_true, UInt32.add_left_inj]
      at source
    rw [source]

/-- Of two indexes, the second has the key of the first exactly if both agree in flag, source and
    leaf index. -/
theorem GlobalIndex.scopeKey_eq_ok_iff {mainnet : UInt32} {a b : GlobalIndex} {key : ScopeKey}
    (h : a.scopeKey mainnet = .ok key) : b.scopeKey mainnet = .ok key ↔
      a.mainnetFlag = b.mainnetFlag ∧ a.source mainnet = b.source mainnet ∧
        a.leafIndex = b.leafIndex := by
  constructor
  · intro h'
    exact ScopeKey.ofParts_inj.1 ((key_of_scopeKey h).symm.trans (key_of_scopeKey h'))
  · rintro ⟨flag, source, leafIndex⟩
    exact (scopeKey_congr flag source leafIndex).symm.trans h

/-- The exit root that the claim's local path leads to. -/
def Claim.localRoot (H : NodeHasher) (kind : LeafKind) (c : Claim) : Digest :=
  c.localPath.fold H c.globalIndex.leafIndex ((c.leaf H kind).hash H)

theorem Claim.globalExitRoot_eq (H : NodeHasher) (c : Claim) :
    c.globalExitRoot H = H.hash (c.mainnetExitRoot.toList ++ c.rollupExitRoot.toList) := rfl

theorem Claim.hash_leaf (H : NodeHasher) (kind : LeafKind) (c : Claim) : (c.leaf H kind).hash H =
    H.hash (kind.toByte :: (bigEndian 4 c.originNetwork.toNat ++ c.originAddress.toList ++
      bigEndian 4 c.destinationNetwork.toNat ++ c.destinationAddress.toList ++ c.amount.toBytes ++
      (H.hash c.metadata).toList)) := rfl

/-- The event of a deposit tells of what the claim asks for; of the metadata, the hashes agree. -/
@[mk_iff] structure BridgeEvent.Describes (H : NodeHasher) (kind : LeafKind) (c : Claim)
    (e : BridgeEvent) : Prop where
  kind : e.kind = kind
  originNetwork : e.originNetwork = c.originNetwork
  originAddress : e.originAddress = c.originAddress
  destinationNetwork : e.destinationNetwork = c.destinationNetwork
  destinationAddress : e.destinationAddress = c.destinationAddress
  amount : e.amount = c.amount
  metadata : H.hash e.metadata = H.hash c.metadata

theorem BridgeEvent.describes_iff_leaf {H : NodeHasher} {kind : LeafKind} {c : Claim}
    {e : BridgeEvent} : e.Describes H kind c ↔ e.leaf H = c.leaf H kind := by
  rw [describes_iff, leaf, Claim.leaf, Leaf.mk.injEq]
  rfl

/-- The byte strings that are hashed to check a claim. -/
def Claim.inputs (H : NodeHasher) (kind : LeafKind) (c : Claim) : List Bytes :=
  (c.leaf H kind).preimage :: pairInput c.mainnetExitRoot c.rollupExitRoot ::
    (climbInputs H c.localPath.siblings c.globalIndex.leafIndex.toNat ((c.leaf H kind).hash H) ++
      climbInputs H c.rollupPath.siblings c.globalIndex.rollupIndex.toNat (c.localRoot H kind))

/-- A node above the leaves of a tree, by its height and position. -/
def InTree (height position : Nat) : Prop :=
  height < treeDepth ∧ position < 2 ^ (treeDepth - (height + 1))

section Hashed

variable {σ : Type} [ExecutionHost σ]

/-- The byte strings that are hashed for a run. -/
inductive Hashed (H : NodeHasher) (mainnet : UInt32) (past : List (Moment σ)) (now : Federation) :
    Bytes → Prop
  | deposit {n : UInt32} {e : BridgeEvent} (h : e ∈ depositsOf past n) :
      Hashed H mainnet past now (e.leaf H).preimage
  /-- A node of an exit tree, as of any number of its leaves. -/
  | exitNode {n : UInt32} {first : List Digest} {height position : Nat}
      (h : first <+: leavesOf H past n) (inTree : InTree height position) :
      Hashed H mainnet past now (plainInput H first height position)
  /-- A node of the authority's tree of rollups, as of any moment. -/
  | rollupNode {g : Federation} {A : Member} {height position : Nat} (hg : g ∈ statesOf past now)
      (hA : g mainnet = some A) (inTree : InTree height position) : Hashed H mainnet past now
        (plainInput H A.ledger.core.roots.rollups.localRoots.toList height position)
  | globalExitRoot {p : GlobalExitRoot} (h : HeldIn mainnet (statesOf past now) p) :
      Hashed H mainnet past now (pairInput p.mainnetExitRoot p.rollupExitRoot)
  | claim {m : Moment σ} {kind : LeafKind} {c : Claim} {input : Bytes} (hm : m ∈ past)
      (hc : m.claim? = some (kind, c)) (h : input ∈ c.inputs H kind) :
      Hashed H mainnet past now input

end Hashed

/-- Two different byte strings have one hash, or one has the hash zero. -/
def Broken (H : NodeHasher) (inputs : Bytes → Prop) : Prop :=
  (∃ a b, inputs a ∧ inputs b ∧ H.Collide a b) ∨ ∃ a, inputs a ∧ H.hash a = .zero

theorem broken_or_eq {H : NodeHasher} {inputs : Bytes → Prop} {a b : Bytes} (ha : inputs a)
    (hb : inputs b) (h : H.hash a = H.hash b) : Broken H inputs ∨ a = b := by
  by_cases same : a = b
  · exact .inr same
  · exact .inl (.inl ⟨a, b, ha, hb, same, h⟩)

/-! ## Paths -/

section Paths

variable {H : NodeHasher} {inputs : Bytes → Prop} {path : InclusionPath} {index : UInt32}
  {node : Digest}

theorem InclusionPath.siblings_ne_nil (path : InclusionPath) : path.siblings ≠ [] := by
  intro empty
  have := path.length_siblings
  rw [empty] at this
  cases this

theorem broken_of_fold_eq_zero
    (climbed : ∀ input ∈ climbInputs H path.siblings index.toNat node, inputs input)
    (h : path.fold H index node = .zero) : Broken H inputs := by
  obtain ⟨input, hmem, hhash⟩ := exists_climbInput path.siblings_ne_nil index.toNat node
  exact .inr ⟨input, climbed input hmem, hhash.trans h⟩

/-- A path that leads to the root of a plain tree starts from its leaf. -/
theorem broken_or_leaf {leaves : List Digest}
    (climbed : ∀ input ∈ climbInputs H path.siblings index.toNat node, inputs input)
    (nodes : ∀ height position, InTree height position →
      inputs (plainInput H leaves height position))
    (h : path.fold H index node = plainRoot H leaves) :
    Broken H inputs ∨ node = leaves.getD index.toNat .zero := by
  have top : index.toNat / 2 ^ treeDepth = 0 := Nat.div_eq_of_lt index.toNat_lt
  have reached : InclusionPath.climb H path.siblings index.toNat node =
      plainNode H leaves (0 + path.siblings.length) (index.toNat / 2 ^ path.siblings.length) := by
    rw [path.length_siblings, top, Nat.zero_add]
    exact h
  rcases climb_binding reached with ⟨hnode, -⟩ | ⟨step, input, hstep, collide⟩
  · exact .inr hnode
  · left
    have below : step < treeDepth := by
      obtain ⟨bound, -⟩ := List.getElem?_eq_some_iff.1 hstep
      simpa using bound
    refine .inl ⟨input, _, climbed input (List.mem_of_getElem? hstep), nodes _ _ ⟨?_, ?_⟩, collide⟩
    · omega
    · rw [Nat.zero_add, Nat.div_lt_iff_lt_mul (Nat.two_pow_pos _), ← Nat.pow_add,
        Nat.sub_add_cancel below]
      exact index.toNat_lt

end Paths

/-! ## One claim -/

section Claim

variable {σ : Type} [ExecutionHost σ] {H : NodeHasher} {mainnet n : UInt32}
  {past earlier later : List (Moment σ)} {f g : Federation} {m : Moment σ} {kind : LeafKind}
  {c : Claim}

/-- The claim's leaf stands in the exit tree of its source, at its index, and a deposit has put it
    there. -/
structure Claim.Backed (H : NodeHasher) (mainnet : UInt32) (past : List (Moment σ)) (f : Federation)
    (kind : LeafKind) (c : Claim) : Prop where
  leaf : ∃ S, f (c.globalIndex.source mainnet) = some S ∧
    S.ledger.roots.isAuthority = c.globalIndex.mainnetFlag ∧
    S.ledger.tree.leaf? c.globalIndex.leafIndex.toNat = some (H.hash (kind.toByte ::
      (bigEndian 4 c.originNetwork.toNat ++ c.originAddress.toList ++
        bigEndian 4 c.destinationNetwork.toNat ++ c.destinationAddress.toList ++
        c.amount.toBytes ++ (H.hash c.metadata).toList)))
  deposit : ∃ e, (depositsOf past (c.globalIndex.source mainnet))[c.globalIndex.leafIndex.toNat]? =
      some e ∧ e.Describes H kind c ∧ e.depositCount = c.globalIndex.leafIndex

theorem Moment.verified_of_claim? (h : m.claim? = some (kind, c)) :
    ∃ key, verifyClaim m.member.deployment m.member.ledger.roots kind c = .ok key ∧
      m.member.ledger.claimed.isClaimed key = false := by
  obtain ⟨key, verified, marked⟩ := m.marked_of_claim? h
  exact ⟨key, verified, (ReplayGuard.mark_eq_ok marked.mark).1⟩

theorem Run.exists_member {rule : List Federation → UInt32 → Call → Prop}
    (h : Run H mainnet rule past f) {e : BridgeEvent} (he : e ∈ depositsOf past n) :
    ∃ M, f n = some M := by
  induction h with
  | start => simp [depositsOf] at he
  | step m run called allowed ih =>
    rw [Moment.result]
    by_cases hn : n = m.network
    · rw [if_pos hn]
      exact ⟨_, rfl⟩
    · rw [if_neg hn]
      rw [depositsOf_snoc, if_neg (Ne.symm hn), Option.toList_none, List.append_nil] at he
      exact ih he

theorem hashed_leaf (hm : m ∈ past) (hc : m.claim? = some (kind, c)) :
    Hashed H mainnet past f (c.leaf H kind).preimage :=
  .claim hm hc List.mem_cons_self

theorem hashed_globalExitRoot (hm : m ∈ past) (hc : m.claim? = some (kind, c)) :
    Hashed H mainnet past f (pairInput c.mainnetExitRoot c.rollupExitRoot) :=
  .claim hm hc (List.mem_cons_of_mem _ List.mem_cons_self)

theorem hashed_localPath (hm : m ∈ past) (hc : m.claim? = some (kind, c)) :
    ∀ input ∈ climbInputs H c.localPath.siblings c.globalIndex.leafIndex.toNat
      ((c.leaf H kind).hash H), Hashed H mainnet past f input := fun _ hinput =>
  .claim hm hc (List.mem_cons_of_mem _ (List.mem_cons_of_mem _ (List.mem_append_left _ hinput)))

theorem hashed_rollupPath (hm : m ∈ past) (hc : m.claim? = some (kind, c)) :
    ∀ input ∈ climbInputs H c.rollupPath.siblings c.globalIndex.rollupIndex.toNat
      (c.localRoot H kind), Hashed H mainnet past f input := fun _ hinput =>
  .claim hm hc (List.mem_cons_of_mem _ (List.mem_cons_of_mem _ (List.mem_append_right _ hinput)))

/-- What leads to a published exit root is a leaf that was deposited. -/
theorem broken_or_deposit (le : earlier <+: past) {leaf : Leaf} {path : InclusionPath}
    {index : UInt32} {root : Digest} (hleaf : Hashed H mainnet past f leaf.preimage)
    (climbed : ∀ input ∈ climbInputs H path.siblings index.toNat (leaf.hash H),
      Hashed H mainnet past f input)
    (published : PublishedFrom H (leavesOf H earlier n) root)
    (h : path.fold H index (leaf.hash H) = root) : Broken H (Hashed H mainnet past f) ∨
      ∃ e, (depositsOf earlier n)[index.toNat]? = some e ∧ e.leaf H = leaf := by
  rcases published with rfl | ⟨first, hfirst, rfl⟩
  · exact .inl (broken_of_fold_eq_zero climbed h)
  · have nodes : ∀ height position, InTree height position →
        Hashed H mainnet past f (plainInput H first height position) :=
      fun _ _ => .exitNode (hfirst.trans (leavesOf_mono H le n))
    rcases broken_or_leaf climbed nodes h with broken | hnode
    · exact .inl broken
    · rcases Nat.lt_or_ge index.toNat first.length with inside | beyond
      · have stored : (leavesOf H earlier n)[index.toNat]? = some (leaf.hash H) := by
          obtain ⟨more, hmore⟩ := hfirst
          rw [← hmore, List.getElem?_append_left inside, List.getElem?_eq_getElem inside, hnode,
            List.getD_eq_getElem _ _ inside]
        rw [leavesOf, List.getElem?_map, Option.map_eq_some_iff] at stored
        obtain ⟨e, he, hash⟩ := stored
        have deposited : e ∈ depositsOf past n := by
          obtain ⟨later, rfl⟩ := le
          rw [depositsOf_append]
          exact List.mem_append_left _ (List.mem_of_getElem? he)
        exact (broken_or_eq (.deposit deposited) hleaf hash).imp_right fun same =>
          ⟨e, he, Leaf.preimage_inj same⟩
      · rw [List.getD_eq_default _ _ beyond] at hnode
        exact .inl (.inr ⟨_, hleaf, hnode⟩)

/-- What leads to the authority's root of the rollups is the root that it holds for the rollup. -/
theorem broken_or_rollup {A : Member} (hg : g ∈ statesOf past f) (hA : g mainnet = some A)
    {path : InclusionPath} {index : UInt32} {root : Digest}
    (climbed : ∀ input ∈ climbInputs H path.siblings index.toNat root,
      Hashed H mainnet past f input)
    (h : path.fold H index root = A.ledger.core.roots.rollups.root H) :
    Broken H (Hashed H mainnet past f) ∨
      root = A.ledger.core.roots.rollups.rootAt index.toNat := by
  by_cases unused : A.ledger.core.roots.rollups.localRoots = #[]
  · left
    refine broken_of_fold_eq_zero climbed (h.trans ?_)
    rw [RollupRoots.root, unused]
    rfl
  · rw [RollupRoots.root_eq_plainRoot unused] at h
    exact broken_or_leaf climbed (fun _ _ => .rollupNode hg hA) h

/-- The global exit root of an honoured claim was the authority's, and so were its halves. -/
theorem Run.broken_or_held (run : Run H mainnet (Follows mainnet) earlier m.before)
    (called : m.before m.network = some m.member)
    (states : ∀ s ∈ statesOf earlier m.before, s ∈ statesOf past f) (hm : m ∈ past)
    (hc : m.claim? = some (kind, c)) :
    Broken H (Hashed H mainnet past f) ∨ ∃ g ∈ statesOf earlier m.before, ∃ A, g mainnet = some A ∧
      c.mainnetExitRoot = A.ledger.core.roots.ownRoot ∧
      c.rollupExitRoot = A.ledger.core.roots.rollups.root H := by
  obtain ⟨key, verified, -⟩ := m.verified_of_claim? hc
  obtain ⟨-, known, -, -⟩ := verifyClaim_eq_ok.1 verified
  obtain rfl := (run.invariant called).hasher
  obtain ⟨p, held, hash⟩ := (run.fed (mem_statesOf_self _ _) called).known _ known
  rcases broken_or_eq (hashed_globalExitRoot hm hc) (.globalExitRoot (held.mono states)) hash with
    broken | same
  · exact .inl broken
  · right
    obtain ⟨mainnetExitRoot, rollupExitRoot⟩ := pairInput_inj.1 same
    obtain ⟨g, hg, A, hA, halves⟩ := held
    obtain ⟨_, -, run', -⟩ := run.of_mem_statesOf hg
    have consistent := (run'.invariant hA).consistent
    rw [RootView.halves?] at halves
    split at halves
    · obtain rfl := Option.some.inj halves
      exact ⟨g, hg, A, hA, mainnetExitRoot, rollupExitRoot.trans consistent⟩
    · cases halves

theorem Run.backed {rule : List Federation → UInt32 → Call → Prop}
    (run : Run H mainnet rule earlier g)
    (role : (c.globalIndex.source mainnet == mainnet) = c.globalIndex.mainnetFlag)
    {e : BridgeEvent} (he : (depositsOf earlier (c.globalIndex.source mainnet))[
      c.globalIndex.leafIndex.toNat]? = some e) (leaf : e.leaf H = c.leaf H kind) :
    c.Backed H mainnet earlier g kind := by
  obtain ⟨S, hS⟩ := run.exists_member (List.mem_of_getElem? he)
  have member := run.invariant hS
  refine ⟨⟨S, hS, ?_, ?_⟩, e, he, BridgeEvent.describes_iff_leaf.2 leaf, ?_⟩
  · exact member.isAuthority_roots.trans role
  · refine (ExitTree.leaf?_of_holds member.tree _).trans ?_
    rw [leavesOf, List.getElem?_map, he, Option.map_some, leaf, c.hash_leaf]
  · rw [run.depositCount he, UInt32.ofNat_toNat]

theorem Run.broken_or_backed_of_published {rule : List Federation → UInt32 → Call → Prop}
    (run : Run H mainnet rule earlier g) (le : earlier <+: past) (hm : m ∈ past)
    (hc : m.claim? = some (kind, c))
    (role : (c.globalIndex.source mainnet == mainnet) = c.globalIndex.mainnetFlag)
    (published : PublishedFrom H (leavesOf H earlier (c.globalIndex.source mainnet))
      (c.localRoot H kind)) :
    Broken H (Hashed H mainnet past f) ∨ c.Backed H mainnet earlier g kind := by
  rcases broken_or_deposit le (hashed_leaf hm hc) (hashed_localPath hm hc) published rfl with
    broken | ⟨e, he, leaf⟩
  · exact .inl broken
  · exact .inr (run.backed role he leaf)

/-- **An honoured claim is backed**, unless the hash is broken. -/
theorem Run.broken_or_backed (h : Run H mainnet (Follows mainnet) past f)
    (split : past = earlier ++ m :: later) (hc : m.claim? = some (kind, c)) :
    Broken H (Hashed H mainnet past f) ∨ c.Backed H mainnet earlier m.before kind := by
  obtain ⟨run, called, -⟩ := h.cut split
  have hm : m ∈ past := by simp [split]
  have le : earlier <+: past := ⟨m :: later, split.symm⟩
  have states : ∀ s ∈ statesOf earlier m.before, s ∈ statesOf past f := fun s hs =>
    split ▸ mem_statesOf_of_cut hs
  rcases run.broken_or_held called states hm hc with
    broken | ⟨g, hg, A, hA, mainnetRoot, rollupRoot⟩
  · exact .inl broken
  obtain ⟨key, verified, -⟩ := m.verified_of_claim? hc
  obtain ⟨-, -, proven, -⟩ := verifyClaim_eq_ok.1 verified
  obtain rfl := (run.invariant called).hasher
  rw [Claim.provesLeaf] at proven
  cases flag : c.globalIndex.mainnetFlag with
  | true =>
    rw [flag, if_pos rfl, InclusionPath.verify, beq_iff_eq, mainnetRoot] at proven
    have source : c.globalIndex.source mainnet = mainnet := GlobalIndex.source_of_mainnet flag
    obtain ⟨earlier', hprefix, run', -⟩ := run.of_mem_statesOf hg
    have published := (run'.invariant hA).ownRoot.mono (leavesOf_mono _ hprefix mainnet)
    refine run.broken_or_backed_of_published le hm hc ?_ ?_
    · rw [source, beq_self_eq_true, flag]
    · rw [source, Claim.localRoot, proven]
      exact published
  | false =>
    rw [flag, if_neg (by decide), InclusionPath.verify, beq_iff_eq, rollupRoot] at proven
    rcases broken_or_rollup (states g hg) hA (hashed_rollupPath hm hc) proven with broken | root
    · exact .inl broken
    rcases (run.fed hg hA).reported c.globalIndex.rollupIndex.toNat with
      zero | ⟨j, id, hj, hid, other, published⟩
    · exact .inl (broken_of_fold_eq_zero (hashed_localPath hm hc) (root.trans zero))
    · obtain rfl := UInt32.toNat_inj.1 hj
      have source : c.globalIndex.source mainnet = id := GlobalIndex.source_of_rollup flag hid
      refine run.broken_or_backed_of_published le hm hc ?_ ?_
      · rw [source, flag, beq_eq_false_iff_ne]
        exact other
      · rw [source, root]
        exact published

/-! ## All claims -/

/-- Network 0 can honour the first message of network 1. -/
theorem Run.exists_first_claim (H : NodeHasher) : ∃ (m : Moment Host) (c : Claim),
    Run H 0 (Follows 0) [.firstMessage H .accepting, .firstFold H .accepting, m] m.result ∧
      m.claim? = some (.message, c) := by
  have run := Run.first H Host.accepting
  obtain ⟨a, hroots, stored, known, operational⟩ := Moment.exists_firstFold H Host.accepting
  obtain ⟨e, path, rollupPath, he, -, -, accepts⟩ := run.rollup_claimable (j := 0) (i := 0)
    (A := ⟨_, (Moment.firstFold H Host.accepting).after⟩) rfl (Published.first H Host.accepting)
    Nat.one_pos rfl rfl hroots stored
  obtain rfl := Option.some.inj he
  have accepted := accepts _ rfl ((congrArg (RootStore.isKnown · _) hroots).trans known)
  refine ⟨_, _, run.step ⟨_, 0, _, .accepting, .claim .message _⟩ rfl trivial,
    accepted.honoured operational ?_ rfl⟩
  rintro ⟨m, hmem, -, kind, c, hc, -⟩
  have hcall := Moment.call_of_claim? hc
  obtain rfl | rfl : m = _ ∨ m = _ := by simpa using hmem
  · cases hcall
  · cases hcall

theorem Claim.Backed.mainnetFlag {rule : List Federation → UInt32 → Call → Prop}
    (backed : c.Backed H mainnet earlier g kind) (run : Run H mainnet rule earlier g) :
    c.globalIndex.mainnetFlag = (c.globalIndex.source mainnet == mainnet) := by
  obtain ⟨S, hS, role, -⟩ := backed.leaf
  exact role.symm.trans (run.invariant hS).isAuthority_roots

/-- Backed claims that refer to one leaf agree on what was deposited. -/
theorem Claim.Backed.leaf_congr {earlier' : List (Moment σ)} {g' : Federation} {kind' : LeafKind}
    {c' : Claim} (backed : c.Backed H mainnet earlier g kind)
    (backed' : c'.Backed H mainnet earlier' g' kind') (le : earlier <+: earlier')
    (source : c.globalIndex.source mainnet = c'.globalIndex.source mainnet)
    (leafIndex : c.globalIndex.leafIndex = c'.globalIndex.leafIndex) :
    c.leaf H kind = c'.leaf H kind' := by
  obtain ⟨e, he, describes, -⟩ := backed.deposit
  obtain ⟨e', he', describes', -⟩ := backed'.deposit
  have same : e = e' := by
    obtain ⟨more, rfl⟩ := le
    rw [← source, ← leafIndex, depositsOf_append] at he'
    rw [List.getElem?_append_left (List.getElem?_eq_some_iff.1 he).1, he] at he'
    exact Option.some.inj he'
  rw [← BridgeEvent.describes_iff_leaf.1 describes, same]
  exact BridgeEvent.describes_iff_leaf.1 describes'

/-- Two honoured claims that are backed by one leaf are not made one after the other. -/
theorem Run.not_claimed_twice {earlier' later' : List (Moment σ)} {m' : Moment σ}
    {kind' : LeafKind} {c' : Claim} (h : Run H mainnet (Follows mainnet) past f)
    (split : past = earlier ++ m :: later) (split' : past = earlier' ++ m' :: later')
    (before : earlier ++ [m] <+: earlier') (hc : m.claim? = some (kind, c))
    (hc' : m'.claim? = some (kind', c')) (backed : c.Backed H mainnet earlier m.before kind)
    (backed' : c'.Backed H mainnet earlier' m'.before kind')
    (source : c.globalIndex.source mainnet = c'.globalIndex.source mainnet)
    (leafIndex : c.globalIndex.leafIndex = c'.globalIndex.leafIndex) : False := by
  obtain ⟨run, called, -⟩ := h.cut split
  obtain ⟨run', called', -⟩ := h.cut split'
  have member := run.invariant called
  have member' := run'.invariant called'
  obtain ⟨key, verified, -⟩ := m.verified_of_claim? hc
  obtain ⟨key', verified', free⟩ := m'.verified_of_claim? hc'
  obtain ⟨destination, -, -, hkey⟩ := verifyClaim_eq_ok.1 verified
  obtain ⟨destination', -, -, hkey'⟩ := verifyClaim_eq_ok.1 verified'
  rw [member.networkId] at destination
  rw [member'.networkId] at destination'
  rw [member.mainnetNetworkId] at hkey
  rw [member'.mainnetNetworkId] at hkey'
  -- one leaf has one destination
  have network : m.network = m'.network := by
    have leaf := backed.leaf_congr backed' ((List.prefix_append _ _).trans before) source leafIndex
    rw [← destination, ← destination']
    exact congrArg Leaf.destinationNetwork leaf
  have flag : c.globalIndex.mainnetFlag = c'.globalIndex.mainnetFlag := by
    rw [backed.mainnetFlag run, backed'.mainnetFlag run', source]
  -- and so both claims have one key, which the first has marked
  rw [← GlobalIndex.scopeKey_congr flag source leafIndex, hkey] at hkey'
  obtain rfl := Except.ok.inj hkey'
  have marked := (member'.claimed key).2
    ⟨m, before.subset (by simp), network, kind, c, hc, hkey⟩
  exact Bool.false_ne_true (free.symm.trans marked)

/-- **Cross-network soundness, exactly once.** In a run that follows the rule, every claim that is
    honoured anywhere is backed by a deposit made before, and no two honoured claims refer to one
    leaf of one source, unless the hash is broken by what was hashed for the run. -/
theorem claims_sound (h : Run H mainnet (Follows mainnet) past f) :
    Broken H (Hashed H mainnet past f) ∨
      (∀ (i : Nat) (m : Moment σ) (kind : LeafKind) (c : Claim), past[i]? = some m →
        m.claim? = some (kind, c) → c.Backed H mainnet (past.take i) m.before kind) ∧
      ∀ (i j : Nat) (m m' : Moment σ) (kind kind' : LeafKind) (c c' : Claim),
        past[i]? = some m → past[j]? = some m' → m.claim? = some (kind, c) →
        m'.claim? = some (kind', c') →
        c.globalIndex.source mainnet = c'.globalIndex.source mainnet →
        c.globalIndex.leafIndex = c'.globalIndex.leafIndex → i = j := by
  by_cases broken : Broken H (Hashed H mainnet past f)
  · exact .inl broken
  have split {i : Nat} {m : Moment σ} (hi : past[i]? = some m) :
      past = past.take i ++ m :: past.drop (i + 1) := by
    obtain ⟨inside, rfl⟩ := List.getElem?_eq_some_iff.1 hi
    rw [← List.drop_eq_getElem_cons, List.take_append_drop]
  have backed {i : Nat} {m : Moment σ} {kind : LeafKind} {c : Claim} (hi : past[i]? = some m)
      (hc : m.claim? = some (kind, c)) : c.Backed H mainnet (past.take i) m.before kind :=
    (h.broken_or_backed (split hi) hc).resolve_left broken
  have later {i j : Nat} {m m' : Moment σ} {kind kind' : LeafKind} {c c' : Claim} (lt : i < j)
      (hi : past[i]? = some m) (hj : past[j]? = some m') (hc : m.claim? = some (kind, c))
      (hc' : m'.claim? = some (kind', c'))
      (source : c.globalIndex.source mainnet = c'.globalIndex.source mainnet)
      (leafIndex : c.globalIndex.leafIndex = c'.globalIndex.leafIndex) : False := by
    have before : past.take i ++ [m] <+: past.take j := by
      obtain ⟨inside, rfl⟩ := List.getElem?_eq_some_iff.1 hi
      rw [List.take_append_getElem]
      exact List.take_prefix_take_left lt
    exact h.not_claimed_twice (split hi) (split hj) before hc hc' (backed hi hc) (backed hj hc')
      source leafIndex
  refine .inr ⟨fun i m kind c => backed, ?_⟩
  intro i j m m' kind kind' c c' hi hj hc hc' source leafIndex
  rcases Nat.lt_trichotomy i j with lt | same | gt
  · exact (later lt hi hj hc hc' source leafIndex).elim
  · exact same
  · exact (later gt hj hi hc' hc source.symm leafIndex.symm).elim

/-- Network 0 honours the first message of network 1, and the message was sent. -/
theorem claims_sound_first : ∃ (past : List (Moment Host)) (f : Federation) (m : Moment Host)
    (c : Claim), Run .keccak 0 (Follows 0) past f ∧ past[2]? = some m ∧
      m.claim? = some (.message, c) ∧
      (Broken .keccak (Hashed .keccak 0 past f) ∨
        c.Backed .keccak 0 (past.take 2) m.before .message) := by
  obtain ⟨m, c, run, hc⟩ := Run.exists_first_claim .keccak
  exact ⟨_, _, m, c, run, rfl, hc, (claims_sound run).imp_right fun ⟨backed, _⟩ =>
    backed 2 m .message c rfl hc⟩

end Claim

end ExitBridge
