/-
  The node history against the plain nodes.

  After any number of leaves the history holds, on every level, the plain nodes of the subtrees that
  have a leaf, and nothing else. A new leaf changes only the last node of a level.

  * `NodeHistory.ofLeaves H leaves`: that history, written down directly.
  * `NodeHistory.push?`: adding a leaf, with nothing as the answer when a node that is read or a
    place that is written is not there. `push?_ofLeaves` shows that it never happens.
  * `subtreeRoot?_ofLeaves`: any subtree of any earlier tree is rebuilt from the history.
-/
import Mathlib.Data.Option.Basic
import ExitBridge.Merkle.NodeHistory
import ExitBridge.Proofs.Merkle.Plain

namespace ExitBridge.NodeHistory

variable (H : NodeHasher)

/-! ## The history of a list of leaves -/

/-- The number of subtrees of a height that have a leaf. -/
def width (count height : Nat) : Nat := (count + (2 ^ height - 1)) / 2 ^ height

/-- The nodes of a height, from the left. -/
def levelOf (leaves : List Digest) (height : Nat) : Array Digest :=
  ((List.range (width leaves.length height)).map (plainNode H leaves height)).toArray

/-- The history of a list of leaves. -/
def ofLeaves (leaves : List Digest) : NodeHistory :=
  ⟨((List.range (treeDepth + 1)).map (levelOf H leaves)).toArray⟩

theorem lt_width_iff {count height position : Nat} :
    position < width count height ↔ position * 2 ^ height < count := by
  have pos : 0 < 2 ^ height := Nat.two_pow_pos height
  rw [width, Nat.lt_iff_add_one_le, Nat.le_div_iff_mul_le pos, Nat.add_mul]
  omega

@[simp] theorem width_zero (count : Nat) : width count 0 = count := by
  rw [width, Nat.pow_zero, Nat.div_one, Nat.sub_self, Nat.add_zero]

/-- The subtree of the next leaf is the last one of its height, or the one after it. -/
theorem div_le_width (count height : Nat) : count / 2 ^ height ≤ width count height :=
  Nat.div_le_div_right (Nat.le_add_right _ _)

@[simp] theorem size_levelOf (leaves : List Digest) (height : Nat) :
    (levelOf H leaves height).size = width leaves.length height := by
  simp [levelOf]

theorem getElem?_levelOf (leaves : List Digest) (height position : Nat) :
    (levelOf H leaves height)[position]? =
      if position * 2 ^ height < leaves.length then some (plainNode H leaves height position)
      else none := by
  rw [levelOf, List.getElem?_toArray, List.getElem?_map]
  split
  · rename_i h
    rw [List.getElem?_range (lt_width_iff.2 h), Option.map_some]
  · rename_i h
    rw [List.getElem?_eq_none (by simpa using Nat.not_lt.1 (mt lt_width_iff.1 h)), Option.map_none]

@[simp] theorem getElem?_ofLeaves (leaves : List Digest) {height : Nat} (h : height ≤ treeDepth) :
    (ofLeaves H leaves).levels[height]? = some (levelOf H leaves height) := by
  rw [ofLeaves, List.getElem?_toArray, List.getElem?_map, List.getElem?_range (by omega)]
  rfl

/-- The history holds the nodes that have a leaf below them. -/
theorem node?_ofLeaves (leaves : List Digest) {height : Nat} (h : height ≤ treeDepth)
    (position : Nat) : (ofLeaves H leaves).node? height position =
      if position * 2 ^ height < leaves.length then some (plainNode H leaves height position)
      else none := by
  rw [← getElem?_levelOf]
  simp [node?, h]

@[simp] theorem ofLeaves_nil : ofLeaves H [] = empty := by
  have level : levelOf H [] = fun _ => #[] := by
    funext height
    rw [← Array.size_eq_zero_iff, size_levelOf]
    refine Nat.div_eq_of_lt ?_
    rw [List.length_nil, Nat.zero_add]
    exact Nat.sub_one_lt_of_lt (Nat.two_pow_pos height)
  rw [ofLeaves, empty, level, List.map_const', List.length_range, List.toArray_replicate]

/-! ## Adding a leaf -/

theorem getElem?_write {level : Array Digest} {position : Nat} (node : Digest)
    (h : position ≤ level.size) (p : Nat) :
    (write level position node)[p]? = if p = position then some node else level[p]? := by
  unfold write
  split
  · rename_i hlt
    rw [Array.getElem?_setIfInBounds]
    grind
  · rw [Array.getElem?_push]
    grind

/-- Writing the node above a new leaf makes the level of the longer list. -/
theorem write_levelOf (leaves : List Digest) (leaf : Digest) (height : Nat) :
    write (levelOf H leaves height) (leaves.length / 2 ^ height)
      (plainNode H (leaves ++ [leaf]) height (leaves.length / 2 ^ height)) =
    levelOf H (leaves ++ [leaf]) height := by
  refine Array.ext_getElem? fun p => ?_
  have pos : 0 < 2 ^ height := Nat.two_pow_pos height
  rw [getElem?_write _ (by simpa using div_le_width _ _), getElem?_levelOf, getElem?_levelOf,
    List.length_append, List.length_singleton]
  have inside : p * 2 ^ height < leaves.length + 1 ↔ p ≤ leaves.length / 2 ^ height := by
    rw [Nat.le_div_iff_mul_le pos]; omega
  rcases Nat.lt_trichotomy p (leaves.length / 2 ^ height) with hlt | heq | hgt
  · -- a full subtree
    have full : (p + 1) * 2 ^ height ≤ leaves.length := (Nat.le_div_iff_mul_le pos).1 hlt
    rw [if_neg (by omega), if_pos (by rw [Nat.add_mul] at full; omega),
      if_pos (inside.2 (by omega)), plainNode_append H [leaf] full]
  · rw [if_pos heq, if_pos (inside.2 (by omega)), heq]
  · have := inside.not.2 (by omega)
    rw [if_neg (by omega), if_neg (by omega), if_neg this]

/-- As `rise`, with nothing as the answer when a node that is read is not there, or the place that
    is written is neither a node of its level nor the one after the last. -/
def rise? (zeros : Array Digest) (height steps position : Nat) (t : NodeHistory) :
    Option NodeHistory :=
  match steps with
  | 0 => some t
  | steps + 1 => do
    let zero ← zeros[height]?
    let left ← t.node? height (position / 2 * 2)
    let right := (t.node? height (position / 2 * 2 + 1)).getD zero
    let level ← t.levels[height + 1]?
    guard (position / 2 ≤ level.size)
    let levels := t.levels.modify (height + 1) fun level =>
      write level (position / 2) (H.pair left right)
    rise? zeros (height + 1) steps (position / 2) ⟨levels⟩

/-- As `push`, with nothing as the answer when a node or a place is not there. -/
def push? (zeros : Array Digest) (leaf : Digest) (t : NodeHistory) : Option NodeHistory := do
  let level ← t.levels[0]?
  rise? H zeros 0 treeDepth level.size ⟨t.levels.modify 0 (·.push leaf)⟩

variable {H}

theorem rise_of_rise? {zeros : Array Digest} {height steps position : Nat} {t t' : NodeHistory}
    (h : rise? H zeros height steps position t = some t') :
    rise H zeros height steps position t = t' := by
  induction steps generalizing height position t with
  | zero => simpa [rise?, rise] using h
  | succ steps ih =>
    simp only [rise?, bind, Option.bind_eq_some_iff] at h
    obtain ⟨zero, hzero, left, hleft, level, -, -, -, hrest⟩ := h
    rw [rise, hzero, hleft]
    exact ih hrest

theorem push_of_push? {zeros : Array Digest} {leaf : Digest} {t t' : NodeHistory}
    (h : push? H zeros leaf t = some t') : push H zeros leaf t = t' := by
  simp only [push?, bind, Option.bind_eq_some_iff] at h
  obtain ⟨level, hlevel, hrise⟩ := h
  rw [push, hlevel]
  exact rise_of_rise? hrise

/-- The history between two lists of leaves: new levels below a height, old ones from it on. -/
def between (H : NodeHasher) (old new : List Digest) (height : Nat) : NodeHistory :=
  ⟨((List.range (treeDepth + 1)).map fun h =>
    if h < height then levelOf H new h else levelOf H old h).toArray⟩

theorem getElem?_between (old new : List Digest) (height : Nat) {h : Nat} (hh : h ≤ treeDepth) :
    (between H old new height).levels[h]? =
      some (if h < height then levelOf H new h else levelOf H old h) := by
  rw [between, List.getElem?_toArray, List.getElem?_map, List.getElem?_range (by omega),
    Option.map_some]

theorem between_zero (old new : List Digest) : between H old new 0 = ofLeaves H old := by
  simp only [between, Nat.not_lt_zero, if_false]
  rfl

theorem between_top (old new : List Digest) :
    between H old new (treeDepth + 1) = ofLeaves H new := by
  rw [between, ofLeaves, List.map_congr_left fun h hh => if_pos (List.mem_range.1 hh)]

/-- Rewriting the first old level makes one more level new. -/
theorem modify_between {old new : List Digest} {height : Nat} {f : Array Digest → Array Digest}
    (hf : f (levelOf H old height) = levelOf H new height) :
    (⟨(between H old new height).levels.modify height f⟩ : NodeHistory) =
      between H old new (height + 1) := by
  suffices (between H old new height).levels.modify height f =
      (between H old new (height + 1)).levels from congrArg mk this
  refine Array.ext_getElem? fun h => ?_
  rw [Array.getElem?_modify]
  rcases Nat.lt_or_ge treeDepth h with hlt | hle
  · simp [between, show ¬ h < treeDepth + 1 by omega]
  · rw [getElem?_between _ _ _ hle, getElem?_between _ _ _ hle]
    rcases Nat.lt_trichotomy h height with hlt | rfl | hgt
    · simp [show height ≠ h by omega, hlt, show h < height + 1 by omega]
    · simp [hf]
    · simp [show height ≠ h by omega, show ¬ h < height by omega, show ¬ h < height + 1 by omega]

theorem pair_levelOf (leaves : List Digest) (height position : Nat)
    (inside : position * 2 ^ (height + 1) < leaves.length) :
    (levelOf H leaves height)[position * 2]? = some (plainNode H leaves height (position * 2)) ∧
      ((levelOf H leaves height)[position * 2 + 1]?).getD (zeroHash H height) =
        plainNode H leaves height (position * 2 + 1) := by
  rw [getElem?_levelOf, getElem?_levelOf]
  refine ⟨if_pos (by rw [Nat.pow_succ] at inside; grind), ?_⟩
  split
  · rfl
  · rename_i h
    rw [plainNode_eq_zeroHash H (Nat.not_lt.1 h), Option.getD_none]

theorem rise?_between (leaves : List Digest) (leaf : Digest) {height steps : Nat}
    (h : height + steps = treeDepth) :
    rise? H (zeroHashes H) height steps (leaves.length / 2 ^ height)
      (between H leaves (leaves ++ [leaf]) (height + 1)) =
        some (ofLeaves H (leaves ++ [leaf])) := by
  induction steps generalizing height with
  | zero => rw [rise?, show height = treeDepth by omega, between_top]
  | succ steps ih =>
    have above : leaves.length / 2 ^ height / 2 = leaves.length / 2 ^ (height + 1) := by
      rw [Nat.div_div_eq_div_mul, Nat.pow_succ]
    obtain ⟨left, right⟩ := pair_levelOf (H := H) (leaves ++ [leaf]) height
      (leaves.length / 2 ^ (height + 1)) (by
        have := Nat.div_mul_le_self leaves.length (2 ^ (height + 1))
        simp; omega)
    have step := modify_between (f := fun level => write level _ _)
      (write_levelOf H leaves leaf (height + 1))
    simp only [rise?, node?, above, getElem?_zeroHashes H (show height ≤ treeDepth by omega),
      getElem?_between _ _ _ (show height ≤ treeDepth by omega),
      getElem?_between _ _ _ (show height + 1 ≤ treeDepth by omega), Nat.lt_succ_self, if_true,
      Option.bind_eq_bind, Option.bind_some, left, right, Nat.lt_irrefl, if_false,
      size_levelOf, div_le_width, guard, Option.pure_def]
    rw [← plainNode_succ, step]
    exact ih (by omega)

/-- **Adding a leaf** reads and writes only what is there, and gives the history of the longer
    list. -/
theorem push?_ofLeaves (leaves : List Digest) (leaf : Digest) :
    push? H (zeroHashes H) leaf (ofLeaves H leaves) = some (ofLeaves H (leaves ++ [leaf])) := by
  have bottom : (levelOf H leaves 0).push leaf = levelOf H (leaves ++ [leaf]) 0 := by
    have := write_levelOf H leaves leaf 0
    simpa [write, plainNode] using this
  have step := modify_between (f := (·.push leaf)) bottom
  have rest := rise?_between (H := H) leaves leaf (Nat.zero_add treeDepth)
  rw [between_zero] at step
  rw [Nat.pow_zero, Nat.div_one] at rest
  simp only [push?, getElem?_ofLeaves H leaves (Nat.zero_le _), Option.bind_eq_bind,
    Option.bind_some, size_levelOf, width_zero, step]
  exact rest

/-! ## Earlier trees -/

/-- **Any subtree of any earlier tree** is rebuilt: all nodes that this needs are in the history. -/
theorem subtreeRoot?_ofLeaves {leaves : List Digest} {count height : Nat}
    (hcount : count ≤ leaves.length) (hheight : height ≤ treeDepth) (position : Nat) :
    subtreeRoot? H (zeroHashes H) (ofLeaves H leaves) count height position =
      some (plainNode H (leaves.take count) height position) := by
  fun_induction subtreeRoot? H (zeroHashes H) (ofLeaves H leaves) count height position with
  | case1 height position hempty =>
    have short : (leaves.take count).length ≤ position * 2 ^ height := by
      rw [List.length_take]; omega
    rw [getElem?_zeroHashes H hheight, Option.getD_some, plainNode_eq_zeroHash H short]
  | case2 height position hempty hfull =>
    rw [node?_ofLeaves H leaves hheight, if_pos (by omega), plainNode_take H hfull]
  | case3 position hempty hfull =>
    -- a single leaf is there or not
    omega
  | case4 position height hempty hfull ihl ihr =>
    rw [ihl (by omega), ihr (by omega), plainNode_succ]
    rfl

end ExitBridge.NodeHistory
