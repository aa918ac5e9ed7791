/-
  The frontier of a tree against its plain nodes.

  Slots are reused and keep stale nodes, so only those are described that the leaf count has a bit
  for: such a slot holds the last full subtree of its height. Appending adds one to the count in
  binary, and the carry meets exactly these slots.

  * `FrontierHolds`: what is known of the slots from a height on.
  * `carry_frontier`: the carry keeps it, and what no slot takes is the root of all leaves.
  * `foldFrontier_eq`: folding the slots with zero hashes gives the plain node above them.
-/
import ExitBridge.Merkle.ExitTree
import ExitBridge.Proofs.Merkle.Plain

namespace ExitBridge

open ExitTree

variable (H : NodeHasher)

/-- Of the slots from a height on, each whose bit is set in `size` (the number of full subtrees of
    that height) holds the last full subtree. -/
def FrontierHolds (leaves : List Digest) : (height : Nat) → List Digest → (size : Nat) → Prop
  | _, [], _ => True
  | height, slot :: rest, size =>
    (size % 2 = 1 → slot = plainNode H leaves height (size - 1)) ∧
      FrontierHolds leaves (height + 1) rest (size / 2)

variable {H}

theorem frontierHolds_zero (leaves frontier : List Digest) (height : Nat) :
    FrontierHolds H leaves height frontier 0 := by
  induction frontier generalizing height with
  | nil => trivial
  | cons slot rest ih => exact ⟨by simp, ih (height + 1)⟩

/-- Slots hold full subtrees, so more leaves do not change what is known of them. -/
theorem FrontierHolds.append {leaves frontier : List Digest} {height size : Nat}
    (hold : FrontierHolds H leaves height frontier size) (fits : size * 2 ^ height ≤ leaves.length)
    (more : List Digest) : FrontierHolds H (leaves ++ more) height frontier size := by
  induction frontier generalizing height size with
  | nil => trivial
  | cons slot rest ih =>
    obtain ⟨hslot, hrest⟩ := hold
    refine ⟨fun odd => ?_, ih hrest ?_⟩
    · rw [hslot odd, plainNode_append]
      rwa [Nat.sub_add_cancel (by omega)]
    · calc size / 2 * 2 ^ (height + 1) = size / 2 * 2 * 2 ^ height := by rw [Nat.pow_succ]; grind
        _ ≤ size * 2 ^ height := Nat.mul_le_mul_right _ (Nat.div_mul_le_self size 2)
        _ ≤ leaves.length := fits

theorem pair_of_even_size {leaves : List Digest} {height size : Nat} (even : size % 2 = 0)
    (pos : 0 < size) :
    H.pair (plainNode H leaves height (size - 2)) (plainNode H leaves height (size - 1)) =
      plainNode H leaves (height + 1) (size / 2 - 1) := by
  rw [plainNode_succ, show (size / 2 - 1) * 2 = size - 2 by omega,
    show size - 2 + 1 = size - 1 by omega]

/-- Carrying the last full subtree of a height through the slots from there on. -/
theorem carry_frontier {leaves frontier : List Digest} {height size : Nat} (pos : 0 < size)
    (hold : FrontierHolds H leaves height frontier (size - 1)) :
    let carried := carry H frontier size (plainNode H leaves height (size - 1))
    FrontierHolds H leaves height carried.1 size ∧
      carried.2 = if size % 2 ^ frontier.length = 0 then
          some (plainNode H leaves (height + frontier.length) (size / 2 ^ frontier.length - 1))
        else none := by
  induction frontier generalizing height size with
  | nil => simp [carry, FrontierHolds, Nat.mod_one]
  | cons slot rest ih =>
    obtain ⟨hslot, hrest⟩ := hold
    rw [List.length_cons, Nat.pow_succ', Nat.mod_mul, ← Nat.div_div_eq_div_mul]
    rcases Nat.mod_two_eq_zero_or_one size with even | odd
    · -- the slot is taken: its subtree and the carried one are joined
      have joined : H.pair slot (plainNode H leaves height (size - 1)) =
          plainNode H leaves (height + 1) (size / 2 - 1) := by
        rw [hslot (by omega), ← pair_of_even_size even pos, Nat.sub_sub]
      rw [show (size - 1) / 2 = size / 2 - 1 by omega] at hrest
      obtain ⟨ih₁, ih₂⟩ := ih (by omega) hrest
      simp only [carry, even, Nat.zero_ne_one, if_false, joined]
      refine ⟨⟨by simp [even], ih₁⟩, ?_⟩
      have double : 0 + 2 * (size / 2 % 2 ^ rest.length) = 0 ↔ size / 2 % 2 ^ rest.length = 0 := by
        omega
      rw [ih₂, Nat.add_assoc height 1, Nat.add_comm 1]
      simp only [double]
    · -- the slot is free and takes the node
      rw [show (size - 1) / 2 = size / 2 by omega] at hrest
      simp only [carry, odd, if_true]
      exact ⟨⟨fun _ => rfl, hrest⟩, by simp⟩

/-- Folding the slots from a height on with the subtree that has missing leaves. -/
theorem foldFrontier_eq {leaves frontier : List Digest} {height size : Nat}
    (hold : FrontierHolds H leaves height frontier size)
    (last : leaves.length ≤ (size + 1) * 2 ^ height) :
    foldFrontier H frontier size (plainNode H leaves height size) (zeroHash H height) =
      plainNode H leaves (height + frontier.length) (size / 2 ^ frontier.length) := by
  induction frontier generalizing height size with
  | nil => simp [foldFrontier]
  | cons slot rest ih =>
    obtain ⟨hslot, hrest⟩ := hold
    have last' : leaves.length ≤ (size / 2 + 1) * 2 ^ (height + 1) :=
      calc leaves.length ≤ (size + 1) * 2 ^ height := last
        _ ≤ (size / 2 + 1) * 2 * 2 ^ height := Nat.mul_le_mul_right _ (by omega)
        _ = (size / 2 + 1) * 2 ^ (height + 1) := by rw [Nat.pow_succ]; grind
    have joined : (if size % 2 = 1 then H.pair slot (plainNode H leaves height size)
        else H.pair (plainNode H leaves height size) (zeroHash H height)) =
          plainNode H leaves (height + 1) (size / 2) := by
      split
      · rename_i odd
        rw [hslot odd, plainNode_succ, show size / 2 * 2 = size - 1 by omega,
          Nat.sub_add_cancel (by omega)]
      · -- without its bit, the right neighbour is empty
        rw [← plainNode_eq_zeroHash H last, plainNode_succ, show size / 2 * 2 = size by omega]
    rw [foldFrontier, joined, ← zeroHash, ih hrest last', List.length_cons, Nat.pow_succ',
      ← Nat.div_div_eq_div_mul, Nat.add_assoc height 1, Nat.add_comm 1]

end ExitBridge
