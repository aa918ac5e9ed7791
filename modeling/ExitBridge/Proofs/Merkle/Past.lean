/-
  What a tree with history says about its past.

  * `rootAt_of_holds`, `pathAt_of_holds`: earlier roots and paths are those of the plain tree of the
    first leaves.
  * `past_of_appends`: everything together, for any number of appends.
-/
import ExitBridge.Proofs.Merkle.Path
import ExitBridge.Proofs.Merkle.Tree

namespace ExitBridge

namespace ExitTree

variable {H : NodeHasher} {keepsNodes : Bool} {leaves : List Digest} {t : ExitTree}

theorem rootAt_of_holds (h : t.Holds H true leaves) {count : Nat} (hcount : count ≤ leaves.length) :
    t.rootAt H count = .ok (plainRoot H (leaves.take count)) := by
  rw [rootAt, h.count, if_neg (by omega)]
  split
  · rename_i heq
    rw [root_of_holds h, heq, List.take_length]
  · rw [h.history, if_pos rfl, Option.bind_some,
      NodeHistory.subtreeRoot?_ofLeaves hcount (Nat.le_refl _)]
    rfl

theorem mapM_eq_some_map {α β : Type} {f : α → Option β} {g : α → β} {l : List α}
    (h : ∀ a ∈ l, f a = some (g a)) : l.mapM f = some (l.map g) := by
  induction l with
  | nil => rfl
  | cons a l ih =>
    rw [List.mapM_cons, h a List.mem_cons_self, ih fun b hb => h b (List.mem_cons_of_mem _ hb)]
    rfl

theorem pathAt_of_holds (h : t.Holds H true leaves) {count index : Nat}
    (hcount : count ≤ leaves.length) (hindex : index < count) :
    t.pathAt H index count = .ok (plainPath H (leaves.take count) index) := by
  have siblings : (List.range treeDepth).mapM (fun height =>
      NodeHistory.subtreeRoot? H (zeroHashes H) (.ofLeaves H leaves) count height
        ((index / 2 ^ height) ^^^ 1)) =
      some (plainSiblings H (leaves.take count) 0 treeDepth index) := by
    rw [mapM_eq_some_map fun height hheight => NodeHistory.subtreeRoot?_ofLeaves hcount
      (Nat.le_of_lt (List.mem_range.1 hheight)) _]
    simp [plainSiblings]
  rw [pathAt, h.count, if_neg (by omega), h.history, if_pos rfl]
  simp only [siblings, Option.bind_some, InclusionPath.ofList?, length_plainSiblings, dite_true]
  rfl

theorem leaf?_of_holds (h : t.Holds H true leaves) (index : Nat) :
    t.leaf? index = leaves[index]? := by
  rw [leaf?, h.history, if_pos rfl, Option.bind_some, NodeHistory.node?_ofLeaves H leaves
    (Nat.zero_le _), Nat.pow_zero, Nat.mul_one]
  split
  · rename_i hlt
    simp [plainNode, hlt]
  · rename_i hge
    simp [Nat.not_lt.1 hge]

/-! ## Refusals -/

theorem rootAt_eq_error_iff (h : t.Holds H true leaves) {count : Nat} {e : LedgerError} :
    t.rootAt H count = .error e ↔
      leaves.length < count ∧ e = .leafIndexOutOfRange count leaves.length := by
  rcases Nat.lt_or_ge leaves.length count with beyond | within
  · rw [rootAt, h.count, if_pos beyond, Except.error.injEq]
    exact ⟨fun he => ⟨beyond, he.symm⟩, fun he => he.2.symm⟩
  · rw [rootAt_of_holds h within]
    exact ⟨nofun, fun he => absurd he.1 (by omega)⟩

theorem pathAt_eq_error_iff (h : t.Holds H true leaves) {index count : Nat} {e : LedgerError} :
    t.pathAt H index count = .error e ↔
      (leaves.length < count ∨ count ≤ index) ∧ e = .leafIndexOutOfRange index count := by
  by_cases beyond : leaves.length < count ∨ count ≤ index
  · rw [pathAt, h.count, if_pos beyond, Except.error.injEq]
    exact ⟨fun he => ⟨beyond, he.symm⟩, fun he => he.2.symm⟩
  · rw [pathAt_of_holds h (by omega) (by omega)]
    exact ⟨nofun, fun he => absurd he.1 beyond⟩

/-! ## All appends -/

theorem foldlM_append_of_holds (h : t.Holds H keepsNodes leaves) {more : List Digest}
    (room : leaves.length + more.length ≤ maxLeafCount) :
    ∃ t', more.foldlM (fun t leaf => (t.append H leaf).map Prod.snd) t = .ok t' ∧
      t'.Holds H keepsNodes (leaves ++ more) := by
  induction more generalizing t leaves with
  | nil => exact ⟨t, rfl, by rwa [List.append_nil]⟩
  | cons leaf more ih =>
    rw [List.length_cons] at room
    obtain ⟨next, hnext, hold⟩ := append_of_holds h (by omega) leaf
    obtain ⟨t', ht', hold'⟩ := ih hold (by simp; omega)
    refine ⟨t', ?_, by simpa using hold'⟩
    rw [List.foldlM_cons, hnext]
    exact ht'

theorem ofLeaves_of_le (H : NodeHasher) (room : leaves.length ≤ maxLeafCount) :
    ∃ t, ofLeaves H leaves = .ok t ∧ t.Holds H true leaves :=
  foldlM_append_of_holds (holds_fresh H true) (by simpa using room)

theorem holds_of_foldlM {t' : ExitTree} (h : t.Holds H keepsNodes leaves) {more : List Digest}
    (hfold : more.foldlM (fun t leaf => (t.append H leaf).map Prod.snd) t = .ok t') :
    t'.Holds H keepsNodes (leaves ++ more) := by
  induction more generalizing t leaves with
  | nil =>
    obtain rfl : t = t' := Except.ok.inj hfold
    rwa [List.append_nil]
  | cons leaf more ih =>
    rw [List.foldlM_cons] at hfold
    rcases Nat.lt_or_eq_of_le h.room with room | full
    · obtain ⟨next, hnext, hold⟩ := append_of_holds h room leaf
      rw [hnext] at hfold
      simpa using ih hold hfold
    · rw [append_of_full h full] at hfold
      cases hfold

theorem holds_of_ofLeaves (h : ofLeaves H leaves = .ok t) : t.Holds H true leaves :=
  holds_of_foldlM (holds_fresh H true) h

end ExitTree

/-- Nothing that a history is asked for is missing: no zero hash, no node of an earlier tree of at
    most `count` leaves, and no node or place when a leaf is added. -/
structure NodeHistory.Complete (H : NodeHasher) (count : Nat) (t : NodeHistory) : Prop where
  zeros : ∀ height ≤ treeDepth, ((zeroHashes H)[height]?).isSome
  subtrees : ∀ earlier ≤ count, ∀ height ≤ treeDepth, ∀ position,
    (t.subtreeRoot? H (zeroHashes H) earlier height position).isSome
  writes : ∀ leaf, t.push? H (zeroHashes H) leaf = some (t.push H (zeroHashes H) leaf)

theorem NodeHistory.complete_ofLeaves (H : NodeHasher) (leaves : List Digest) :
    (NodeHistory.ofLeaves H leaves).Complete H leaves.length where
  zeros height h := by rw [getElem?_zeroHashes H h, Option.isSome_some]
  subtrees earlier hearlier height hheight position := by
    rw [subtreeRoot?_ofLeaves hearlier hheight, Option.isSome_some]
  writes leaf := by rw [push?_ofLeaves, push_of_push? (push?_ofLeaves leaves leaf)]

namespace ExitTree

variable {leaves : List Digest}

/-- **The past of a tree.** A tree that was given some leaves knows the root it had after each of
    them and, for every leaf that was there by then, a path to that root. Later leaves change no
    such answer; only questions beyond the leaves are refused; and nothing that is looked up is
    missing. -/
theorem past_of_appends (H : NodeHasher) (room : leaves.length ≤ maxLeafCount) :
    ∃ t, ofLeaves H leaves = .ok t ∧
      (∀ count ≤ leaves.length, ∃ earlier, ofLeaves H (leaves.take count) = .ok earlier ∧
        t.rootAt H count = .ok (earlier.root H)) ∧
      (∀ count ≤ leaves.length, ∀ index : UInt32, index.toNat < count → ∃ leaf path,
        leaves[index.toNat]? = some leaf ∧ t.leaf? index.toNat = some leaf ∧
          t.pathAt H index.toNat count = .ok path ∧
          t.rootAt H count = .ok (path.fold H index leaf)) ∧
      (∀ more later, ofLeaves H (leaves ++ more) = .ok later → ∀ count ≤ leaves.length,
        later.rootAt H count = t.rootAt H count ∧
          ∀ index < count, later.pathAt H index count = t.pathAt H index count) ∧
      (∀ count e, t.rootAt H count = .error e ↔
        leaves.length < count ∧ e = .leafIndexOutOfRange count leaves.length) ∧
      (∀ index count e, t.pathAt H index count = .error e ↔
        (leaves.length < count ∨ count ≤ index) ∧ e = .leafIndexOutOfRange index count) ∧
      ∃ history, t.history = some history ∧ history.Complete H leaves.length := by
  obtain ⟨t, ht, hold⟩ := ofLeaves_of_le H room
  refine ⟨t, ht, fun count hcount => ?_, fun count hcount index hindex => ?_,
    fun more later hlater count hcount => ?_, fun _ _ => rootAt_eq_error_iff hold,
    fun _ _ _ => pathAt_eq_error_iff hold, _, hold.history,
    NodeHistory.complete_ofLeaves H leaves⟩
  · have shorter : (leaves.take count).length ≤ maxLeafCount := by rw [List.length_take]; omega
    obtain ⟨earlier, hearlier, hold'⟩ := ofLeaves_of_le H shorter
    exact ⟨earlier, hearlier, by rw [rootAt_of_holds hold hcount, root_of_holds hold']⟩
  · obtain ⟨leaf, hleaf⟩ : ∃ leaf, leaves[index.toNat]? = some leaf :=
      ⟨_, List.getElem?_eq_getElem (by omega)⟩
    have taken : (leaves.take count)[index.toNat]? = some leaf := by
      rw [List.getElem?_take_of_lt hindex, hleaf]
    exact ⟨leaf, _, hleaf, by rw [leaf?_of_holds hold, hleaf], pathAt_of_holds hold hcount hindex,
      by rw [rootAt_of_holds hold hcount, fold_plainPath taken]⟩
  · have hold' := holds_of_ofLeaves hlater
    have longer : count ≤ (leaves ++ more).length := by rw [List.length_append]; omega
    have same : (leaves ++ more).take count = leaves.take count :=
      List.take_append_of_le_length hcount
    exact ⟨by rw [rootAt_of_holds hold' longer, rootAt_of_holds hold hcount, same],
      fun index hindex => by
        rw [pathAt_of_holds hold' longer hindex, pathAt_of_holds hold hcount hindex, same]⟩

/-- Three leaves: the path of the second one as of two leaves, and a question beyond them. -/
theorem past_of_three_appends :
    let leaves : List Digest :=
      [⟨List.replicate 32 1, rfl⟩, ⟨List.replicate 32 2, rfl⟩, ⟨List.replicate 32 3, rfl⟩]
    leaves.length ≤ maxLeafCount ∧ ∃ t, ofLeaves .keccak leaves = .ok t ∧
      (∃ leaf path, leaves[1]? = some leaf ∧ t.pathAt .keccak 1 2 = .ok path ∧
        t.rootAt .keccak 2 = .ok (path.fold .keccak 1 leaf)) ∧
      t.pathAt .keccak 2 2 = .error (.leafIndexOutOfRange 2 2) := by
  intro leaves
  have room : leaves.length ≤ maxLeafCount := by decide
  obtain ⟨t, ht, -, paths, -, -, refused, -⟩ := past_of_appends .keccak room
  obtain ⟨leaf, path, hleaf, -, hpath, hroot⟩ := paths 2 (by decide) 1 (by decide)
  exact ⟨room, t, ht, ⟨leaf, path, hleaf, hpath, hroot⟩, (refused 2 2 _).2 ⟨by decide, rfl⟩⟩

end ExitTree

end ExitBridge
