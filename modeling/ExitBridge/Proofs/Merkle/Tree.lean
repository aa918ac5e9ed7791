/-
  Exit trees against the plain tree.

  * `ExitTree.Holds`: the invariant of a tree that was empty once and has been given some leaves.
  * `append_of_holds`, `append_of_full`: one leaf more, or the refusal of a full tree.
  * `root_of_holds`: the root is that of the plain tree.
  * `appendEach_fresh`: the answers, count and root after offering any list of leaves.
-/
import Mathlib.Tactic.Common
import ExitBridge.Proofs.Merkle.Frontier
import ExitBridge.Proofs.Merkle.History

namespace ExitBridge

namespace ExitTree

/-- The tree has been given these leaves, and keeps its nodes or not. -/
structure Holds (H : NodeHasher) (keepsNodes : Bool) (leaves : List Digest) (t : ExitTree) :
    Prop where
  count : t.count = leaves.length
  room : leaves.length ≤ maxLeafCount
  frontier : FrontierHolds H leaves 0 t.frontier.toList leaves.length
  fullRoot : t.fullRoot = if leaves.length = maxLeafCount then some (plainRoot H leaves) else none
  history : t.history = if keepsNodes then some (.ofLeaves H leaves) else none

variable {H : NodeHasher} {keepsNodes : Bool} {leaves : List Digest} {t : ExitTree}

/-- The empty tree of either kind. -/
def fresh (keepsNodes : Bool) : ExitTree := if keepsNodes then empty else emptyFrontier

theorem holds_fresh (H : NodeHasher) (keepsNodes : Bool) :
    (fresh keepsNodes).Holds H keepsNodes [] := by
  cases keepsNodes
  all_goals
    exact ⟨rfl, Nat.zero_le _, frontierHolds_zero _ _ _, rfl, by simp [fresh, empty, emptyFrontier]⟩

/-! ## Appending -/

theorem isFull_iff (h : t.Holds H keepsNodes leaves) :
    t.isFull = true ↔ leaves.length = maxLeafCount := by
  have := h.room
  simp only [isFull, h.count, decide_eq_true_eq]
  omega

theorem append_of_full (h : t.Holds H keepsNodes leaves) (full : leaves.length = maxLeafCount)
    (leaf : Digest) : t.append H leaf = .error .merkleTreeFull := by
  rw [append, if_pos ((isFull_iff h).2 full)]

theorem index_of_append {index : Nat} {t' : ExitTree} {leaf : Digest}
    (h : t.append H leaf = .ok (index, t')) : index = t.count := by
  rw [append] at h
  split at h
  · cases h
  · cases h
    rfl

/-- Only the last leaf of all is carried past every slot. -/
theorem succ_mod_maxLeafCount {count : Nat} (h : count < maxLeafCount) :
    (count + 1) % maxLeafCount = 0 ↔ count + 1 = maxLeafCount := by
  constructor
  · intro hmod
    by_contra hne
    rw [Nat.mod_eq_of_lt (by omega)] at hmod
    omega
  · intro heq
    rw [heq, Nat.mod_self]

theorem append_of_holds (h : t.Holds H keepsNodes leaves) (room : leaves.length < maxLeafCount)
    (leaf : Digest) : ∃ t', t.append H leaf = .ok (leaves.length, t') ∧
      t'.Holds H keepsNodes (leaves ++ [leaf]) := by
  have hfull : ¬ t.isFull = true := fun full => by
    have := (isFull_iff h).1 full
    omega
  have last : plainNode H (leaves ++ [leaf]) 0 (t.count + 1 - 1) = leaf := by
    simp [plainNode, h.count]
  have before : FrontierHolds H (leaves ++ [leaf]) 0 t.frontier.toList (t.count + 1 - 1) := by
    rw [h.count]
    exact h.frontier.append (by simp) [leaf]
  obtain ⟨hfrontier, htop⟩ := carry_frontier (Nat.succ_pos _) before
  rw [last] at hfrontier htop
  have top : (carry H t.frontier.toList (t.count + 1) leaf).2 =
      if leaves.length + 1 = maxLeafCount then some (plainRoot H (leaves ++ [leaf])) else none := by
    refine htop.trans ?_
    rw [Vector.length_toList, h.count, ← maxLeafCount]
    simp only [Nat.succ_eq_add_one, succ_mod_maxLeafCount room]
    split
    · rename_i full
      rw [full, Nat.div_self (by decide), plainRoot, Nat.zero_add]
    · rfl
  refine ⟨_, by rw [append, if_neg hfull, ← h.count], ⟨?_, ?_, ?_, ?_, ?_⟩⟩
  · simp [h.count]
  · simpa using Nat.succ_le_of_lt room
  · simpa [h.count] using hfrontier
  · simp only [top, h.fullRoot, if_neg (Nat.ne_of_lt room), Option.or_none, List.length_append,
      List.length_singleton]
  · rw [h.history]
    cases keepsNodes
    · rfl
    · simp [NodeHistory.push_of_push? (NodeHistory.push?_ofLeaves leaves leaf)]

theorem holds_of_append {t' : ExitTree} {index : Nat} {leaf : Digest}
    (h : t.Holds H keepsNodes leaves) (happend : t.append H leaf = .ok (index, t')) :
    t'.Holds H keepsNodes (leaves ++ [leaf]) ∧ index = leaves.length := by
  rcases Nat.lt_or_eq_of_le h.room with room | full
  · obtain ⟨next, hnext, hold⟩ := append_of_holds h room leaf
    rw [hnext] at happend
    cases happend
    exact ⟨hold, rfl⟩
  · rw [append_of_full h full leaf] at happend
    cases happend

/-! ## Root -/

theorem root_of_holds (h : t.Holds H keepsNodes leaves) : t.root H = plainRoot H leaves := by
  rw [root, h.fullRoot]
  split
  · rfl
  · rename_i hne
    have below : leaves.length / maxLeafCount = 0 :=
      Nat.div_eq_of_lt (Nat.lt_of_le_of_ne h.room hne)
    have empty : plainNode H leaves 0 leaves.length = .zero := by simp [plainNode]
    have fold := foldFrontier_eq h.frontier (by simp)
    rw [empty, Vector.length_toList, ← maxLeafCount, below, Nat.zero_add] at fold
    rw [Option.getD_none, h.count]
    exact fold

/-! ## Offering many leaves -/

/-- Offers leaves one after another: the answers, and the tree afterwards. A refused leaf leaves the
    tree as it is. -/
def appendEach (H : NodeHasher) : ExitTree → List Digest → List (Except LedgerError Nat) × ExitTree
  | t, [] => ([], t)
  | t, leaf :: rest =>
    let (answer, t) := match t.append H leaf with
      | .ok (index, t) => (.ok index, t)
      | .error e => (.error e, t)
    let (answers, t) := appendEach H t rest
    (answer :: answers, t)

/-- The answer to the leaf offered after so many others. -/
def answerAt (count : Nat) : Except LedgerError Nat :=
  if count < maxLeafCount then .ok count else .error .merkleTreeFull

theorem appendEach_append (H : NodeHasher) (t : ExitTree) (first rest : List Digest) :
    (t.appendEach H (first ++ rest)).2 = ((t.appendEach H first).2.appendEach H rest).2 := by
  induction first generalizing t with
  | nil => rfl
  | cons leaf first ih => exact ih _

theorem appendEach_of_full (h : t.Holds H keepsNodes leaves) (full : leaves.length = maxLeafCount)
    (more : List Digest) : (t.appendEach H more).2 = t := by
  induction more with
  | nil => rfl
  | cons leaf more ih => simpa only [appendEach, append_of_full h full leaf] using ih

theorem appendEach_of_holds (h : t.Holds H keepsNodes leaves) (more : List Digest) :
    (t.appendEach H more).1 = (List.range more.length).map (fun i => answerAt (leaves.length + i)) ∧
      (t.appendEach H more).2.Holds H keepsNodes ((leaves ++ more).take maxLeafCount) := by
  induction more generalizing t leaves with
  | nil => exact ⟨rfl, by simpa [appendEach, List.take_of_length_le h.room] using h⟩
  | cons leaf more ih =>
    rw [List.length_cons, List.range_succ_eq_map, List.map_cons, List.map_map]
    rcases Nat.lt_or_eq_of_le h.room with room | full
    · obtain ⟨t', ht', hold⟩ := append_of_holds h room leaf
      obtain ⟨answers, after⟩ := ih hold
      simp only [appendEach, ht', answers, answerAt, Nat.add_zero, room, if_true]
      refine ⟨?_, by simpa using after⟩
      simp [Function.comp_def, Nat.add_assoc, Nat.add_comm 1]
    · obtain ⟨answers, after⟩ := ih h
      have refused {count : Nat} (hc : maxLeafCount ≤ count) :
          answerAt count = .error .merkleTreeFull := if_neg (Nat.not_lt.2 hc)
      simp only [appendEach, append_of_full h full, answers, full]
      refine ⟨by simp [refused, Function.comp_def], ?_⟩
      rw [← full, List.take_left] at after ⊢
      exact after

/-- **Frontier and plain tree.** Whatever is offered to an empty tree, with history or without:
    leaves are answered by their indexes until the tree is full and refused from then on, refused
    leaves change nothing, and the root is that of the plain tree of the leaves that were taken. -/
theorem appendEach_fresh (H : NodeHasher) (keepsNodes : Bool) (leaves : List Digest) :
    let (answers, t) := (fresh keepsNodes).appendEach H leaves
    answers = (List.range leaves.length).map answerAt ∧
      t = ((fresh keepsNodes).appendEach H (leaves.take maxLeafCount)).2 ∧
      t.count = min maxLeafCount leaves.length ∧
      t.root H = plainRoot H (leaves.take maxLeafCount) := by
  obtain ⟨answers, after⟩ := appendEach_of_holds (holds_fresh H keepsNodes) leaves
  obtain ⟨-, taken⟩ := appendEach_of_holds (holds_fresh H keepsNodes) (leaves.take maxLeafCount)
  rw [List.nil_append] at after taken
  refine ⟨by simpa using answers, ?_, by simpa using after.count, root_of_holds after⟩
  rcases Nat.lt_or_ge maxLeafCount leaves.length with more | fits
  · -- the tree is full before the leaves end
    conv_lhs => rw [← List.take_append_drop maxLeafCount leaves, appendEach_append]
    exact appendEach_of_full taken (by simp; omega) _
  · rw [List.take_of_length_le fits]

end ExitTree

end ExitBridge
