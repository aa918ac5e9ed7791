/-
  Inclusion paths against the plain tree.

  * `InclusionPath.rootFrom`: what a path leads to, by the bits of the index.
  * `climb_plainSiblings`: a node with its own siblings leads to the node above it.
  * `fold_plainPath`: a leaf with its own path leads to the root.
  * `climb_binding`: whatever leads to a node of the plain tree is the tree's own node with the
    tree's own siblings, or else two different byte strings with one hash have been found: one that
    was hashed on the way, and that of the node at its place.

  No property of the hash is assumed; a collision is always handed back.
-/
import Mathlib.Data.Nat.Bitwise
import ExitBridge.Proofs.Merkle.Plain

namespace ExitBridge

/-! ## Hash inputs -/

/-- Two different byte strings with one hash. -/
def NodeHasher.Collide (H : NodeHasher) (a b : Bytes) : Prop := a ≠ b ∧ H.hash a = H.hash b

/-- The bytes whose hash is the parent of two nodes. -/
def pairInput (left right : Digest) : Bytes := left.toList ++ right.toList

theorem pairInput_inj {a b c d : Digest} : pairInput a b = pairInput c d ↔ a = c ∧ b = d := by
  constructor
  · intro h
    obtain ⟨hl, hr⟩ := List.append_inj h (by simp)
    exact ⟨FixedBytes.ext hl, FixedBytes.ext hr⟩
  · rintro ⟨rfl, rfl⟩
    rfl

/-- The bytes that are hashed while climbing. -/
def climbInputs (H : NodeHasher) : List Digest → Nat → Digest → List Bytes
  | [], _, _ => []
  | sibling :: rest, position, node =>
    let input := if position % 2 = 1 then pairInput sibling node else pairInput node sibling
    input :: climbInputs H rest (position / 2) (H.hash input)

@[simp] theorem length_climbInputs (H : NodeHasher) (siblings : List Digest) (position : Nat)
    (node : Digest) : (climbInputs H siblings position node).length = siblings.length := by
  induction siblings generalizing position node with
  | nil => rfl
  | cons sibling rest ih => simp only [climbInputs, List.length_cons, ih]

/-- The bytes whose hash is the plain node one level up. -/
def plainInput (H : NodeHasher) (leaves : List Digest) (height position : Nat) : Bytes :=
  pairInput (plainNode H leaves height (position * 2))
    (plainNode H leaves height (position * 2 + 1))

variable {H : NodeHasher}

@[simp] theorem hash_plainInput (leaves : List Digest) (height position : Nat) :
    H.hash (plainInput H leaves height position) = plainNode H leaves (height + 1) position := rfl

theorem climb_cons (sibling : Digest) (rest : List Digest) (position : Nat) (node : Digest) :
    InclusionPath.climb H (sibling :: rest) position node =
      InclusionPath.climb H rest (position / 2) (H.hash
        (if position % 2 = 1 then pairInput sibling node else pairInput node sibling)) := by
  rw [InclusionPath.climb]
  split <;> rfl

theorem exists_climbInput {siblings : List Digest} (h : siblings ≠ []) (position : Nat)
    (node : Digest) : ∃ input ∈ climbInputs H siblings position node,
      H.hash input = InclusionPath.climb H siblings position node := by
  induction siblings generalizing position node with
  | nil => exact absurd rfl h
  | cons sibling rest ih =>
    rw [climb_cons, climbInputs]
    cases rest with
    | nil => exact ⟨_, List.mem_cons_self, rfl⟩
    | cons next rest =>
      obtain ⟨input, hmem, hhash⟩ := ih (List.cons_ne_nil _ _) (position / 2)
        (H.hash (if position % 2 = 1 then pairInput sibling node else pairInput node sibling))
      exact ⟨input, List.mem_cons_of_mem _ hmem, hhash⟩

/-! ## What a path leads to -/

/-- At each height a node is hashed with its sibling, which stands on the left if the index has
    that bit. -/
def InclusionPath.rootFrom (H : NodeHasher) (path : InclusionPath) (index : UInt32)
    (node : Digest) : Digest :=
  path.siblings.zipIdx.foldl (fun node (sibling, height) => H.hash
    (if index.toNat.testBit height then sibling.toList ++ node.toList
      else node.toList ++ sibling.toList)) node

theorem climb_eq_foldl (siblings : List Digest) (index height : Nat) (node : Digest) :
    InclusionPath.climb H siblings (index / 2 ^ height) node =
      (siblings.zipIdx height).foldl (fun node (sibling, height) => H.hash
        (if index.testBit height then sibling.toList ++ node.toList
          else node.toList ++ sibling.toList)) node := by
  induction siblings generalizing height node with
  | nil => rfl
  | cons sibling rest ih =>
    rw [climb_cons, Nat.div_div_eq_div_mul, ← Nat.pow_succ, ih, List.zipIdx_cons, List.foldl_cons]
    simp only [Nat.testBit_eq_decide_div_mod_eq, decide_eq_true_eq, pairInput]

theorem InclusionPath.fold_eq_rootFrom (path : InclusionPath) (index : UInt32) (node : Digest) :
    path.fold H index node = path.rootFrom H index node := by
  have climbed := climb_eq_foldl (H := H) path.siblings index.toNat 0 node
  rwa [Nat.pow_zero, Nat.div_one] at climbed

/-! ## The tree's own paths -/

variable (H)

/-- The siblings of the plain nodes on the way up from a position. -/
def plainSiblings (leaves : List Digest) (height steps position : Nat) : List Digest :=
  (List.range steps).map fun h => plainNode H leaves (height + h) ((position / 2 ^ h) ^^^ 1)

@[simp] theorem length_plainSiblings (leaves : List Digest) (height steps position : Nat) :
    (plainSiblings H leaves height steps position).length = steps := by
  simp [plainSiblings]

theorem plainSiblings_succ (leaves : List Digest) (height steps position : Nat) :
    plainSiblings H leaves height (steps + 1) position =
      plainNode H leaves height (position ^^^ 1) ::
        plainSiblings H leaves (height + 1) steps (position / 2) := by
  simp only [plainSiblings, List.range_succ_eq_map, List.map_cons, List.map_map, Nat.add_zero,
    Nat.pow_zero, Nat.div_one, List.cons.injEq, true_and]
  refine List.map_congr_left fun h _ => ?_
  simp only [Function.comp_apply, Nat.div_div_eq_div_mul, Nat.pow_succ', Nat.succ_eq_add_one]
  rw [Nat.add_assoc, Nat.add_comm 1]

variable {H}

theorem plainInput_eq_sibling (leaves : List Digest) (height position : Nat) :
    plainInput H leaves height (position / 2) =
      if position % 2 = 1 then
        pairInput (plainNode H leaves height (position ^^^ 1)) (plainNode H leaves height position)
      else
        pairInput (plainNode H leaves height position)
          (plainNode H leaves height (position ^^^ 1)) := by
  rcases Nat.mod_two_eq_zero_or_one position with even | odd
  · rw [if_neg (by omega), Nat.xor_one_of_even (Nat.even_iff.2 even), plainInput,
      show position / 2 * 2 = position by omega]
  · rw [if_pos odd, Nat.xor_one_of_odd (Nat.odd_iff.2 odd), plainInput,
      show position / 2 * 2 = position - 1 by omega, Nat.sub_add_cancel (by omega)]

theorem climb_plainSiblings (leaves : List Digest) (height steps position : Nat) :
    InclusionPath.climb H (plainSiblings H leaves height steps position) position
        (plainNode H leaves height position) =
      plainNode H leaves (height + steps) (position / 2 ^ steps) := by
  induction steps generalizing height position with
  | zero => simp [plainSiblings, InclusionPath.climb]
  | succ steps ih =>
    rw [plainSiblings_succ, climb_cons, ← plainInput_eq_sibling, hash_plainInput, ih,
      Nat.div_div_eq_div_mul, ← Nat.pow_succ', Nat.add_assoc, Nat.add_comm 1]

variable (H)

/-- The path of a leaf of the plain tree. -/
def plainPath (leaves : List Digest) (index : Nat) : InclusionPath :=
  ⟨plainSiblings H leaves 0 treeDepth index, by simp⟩

variable {H}

/-- A path of the plain tree leads from its leaf to the root. -/
theorem fold_plainPath {leaves : List Digest} {index : UInt32} {leaf : Digest}
    (h : leaves[index.toNat]? = some leaf) :
    (plainPath H leaves index.toNat).fold H index leaf = plainRoot H leaves := by
  have start : plainNode H leaves 0 index.toNat = leaf := by
    simp [plainNode, List.getD_eq_getElem?_getD, h]
  have top : index.toNat / 2 ^ treeDepth = 0 := Nat.div_eq_of_lt index.toNat_lt
  have climbed := climb_plainSiblings (H := H) leaves 0 treeDepth index.toNat
  rw [start, top, Nat.zero_add] at climbed
  exact climbed

/-! ## Binding -/

/-- **What leads to a plain node** is the plain tree's own, or a collision is found on the way. -/
theorem climb_binding {leaves siblings : List Digest} {height position : Nat} {node : Digest}
    (h : InclusionPath.climb H siblings position node =
      plainNode H leaves (height + siblings.length) (position / 2 ^ siblings.length)) :
    (node = plainNode H leaves height position ∧
        siblings = plainSiblings H leaves height siblings.length position) ∨
      ∃ step input, (climbInputs H siblings position node)[step]? = some input ∧
        H.Collide input (plainInput H leaves (height + step) (position / 2 ^ (step + 1))) := by
  induction siblings generalizing height position node with
  | nil => exact .inl ⟨by simpa [InclusionPath.climb] using h, by simp [plainSiblings]⟩
  | cons sibling rest ih =>
    set input := if position % 2 = 1 then pairInput sibling node else pairInput node sibling
      with hinput
    have above : InclusionPath.climb H rest (position / 2) (H.hash input) =
        plainNode H leaves (height + 1 + rest.length) (position / 2 / 2 ^ rest.length) := by
      rw [← climb_cons, h, List.length_cons, Nat.div_div_eq_div_mul, ← Nat.pow_succ',
        Nat.add_assoc height 1, Nat.add_comm 1]
    rcases ih above with ⟨hnode, hrest⟩ | ⟨step, found, hfound, hcollide⟩
    · by_cases same : input = plainInput H leaves height (position / 2)
      · -- equal bytes have equal halves
        left
        rw [plainInput_eq_sibling, hinput] at same
        rw [List.length_cons, plainSiblings_succ, List.cons.injEq]
        split at same
        · obtain ⟨hs, hn⟩ := pairInput_inj.1 same
          exact ⟨hn, hs, hrest⟩
        · obtain ⟨hn, hs⟩ := pairInput_inj.1 same
          exact ⟨hn, hs, hrest⟩
      · exact .inr ⟨0, input, rfl, by simpa using same, hnode⟩
    · refine .inr ⟨step + 1, found, hfound, ?_⟩
      rw [Nat.pow_succ', ← Nat.div_div_eq_div_mul, ← Nat.add_assoc, Nat.add_right_comm]
      exact hcollide

end ExitBridge
