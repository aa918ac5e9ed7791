/-
  What an accepted path says about a tree.

  A path that leads from a leaf to the root of a tree is the tree's own path from the tree's own
  leaf, or at some height two different inputs of 64 bytes have one hash: the one that was hashed
  for the path, and the one of the tree's node at that place.

  * `ExitTree.Grown H leaves t`: how a tree comes to hold leaves.
  * `InclusionPath.nodeAt`, `InclusionPath.inputAt`: the node a path has reached at a height, and
    the bytes that are hashed there.
  * `verify_binding`: for every tree, index, leaf and path.
-/
import ExitBridge.Proofs.Merkle.Past
import ExitBridge.Proofs.Merkle.Path
import ExitBridge.Proofs.Merkle.Restored

namespace ExitBridge

variable {H : NodeHasher} {leaves : List Digest} {t : ExitTree}

/-! ## What is hashed for a path -/

namespace InclusionPath

variable (H)

/-- The node that a path has reached at a height. -/
def nodeAt (path : InclusionPath) (index : UInt32) (leaf : Digest) (height : Nat) : Digest :=
  climb H (path.siblings.take height) index.toNat leaf

/-- The bytes that are hashed for a path at a height. -/
def inputAt (path : InclusionPath) (index : UInt32) (leaf : Digest) (height : Fin treeDepth) :
    Bytes :=
  let sibling := path.siblings.get (height.cast path.length_siblings.symm)
  if index.toNat / 2 ^ height.val % 2 = 1 then pairInput sibling (path.nodeAt H index leaf height)
  else pairInput (path.nodeAt H index leaf height) sibling

variable {H}

@[simp] theorem length_inputAt (path : InclusionPath) (index : UInt32) (leaf : Digest)
    (height : Fin treeDepth) : (path.inputAt H index leaf height).length = 64 := by
  rw [inputAt]
  split <;> simp [pairInput]

end InclusionPath

/-- What is hashed at a step is the node reached by then, with the sibling of that step. -/
theorem getElem?_climbInputs {siblings : List Digest} {step : Nat} (h : step < siblings.length)
    (position : Nat) (node : Digest) :
    (climbInputs H siblings position node)[step]? =
      some (let reached := InclusionPath.climb H (siblings.take step) position node
        if position / 2 ^ step % 2 = 1 then pairInput siblings[step] reached
        else pairInput reached siblings[step]) := by
  induction siblings generalizing step position node with
  | nil => exact absurd h (Nat.not_lt_zero _)
  | cons sibling rest ih =>
    cases step with
    | zero => simp [climbInputs, InclusionPath.climb]
    | succ step =>
      rw [climbInputs, List.getElem?_cons_succ, ih (Nat.lt_of_succ_lt_succ h)]
      simp only [List.take_succ_cons, List.getElem_cons_succ, climb_cons, Nat.div_div_eq_div_mul,
        Nat.pow_succ']

theorem InclusionPath.getElem?_climbInputs_inputAt (path : InclusionPath) (index : UInt32)
    (leaf : Digest) (height : Fin treeDepth) :
    (climbInputs H path.siblings index.toNat leaf)[height.val]? =
      some (path.inputAt H index leaf height) :=
  getElem?_climbInputs (by simp) _ _

/-! ## Trees that hold leaves -/

namespace ExitTree

/-- How a tree comes to hold leaves: it is empty, it is given one leaf more, or it is restored from
    what decides the roots of such a tree. -/
inductive Grown (H : NodeHasher) : List Digest → ExitTree → Prop where
  | fresh (keepsNodes : Bool) : Grown H [] (fresh keepsNodes)
  | append {leaves : List Digest} {t t' : ExitTree} {index : Nat} {leaf : Digest}
    (grown : Grown H leaves t) (appended : t.append H leaf = .ok (index, t')) :
    Grown H (leaves ++ [leaf]) t'
  | restored {leaves : List Digest} {t t' : ExitTree}
    (grown : Grown H leaves t) (restored : ofSnapshot t.snapshot = .ok t') : Grown H leaves t'

theorem holds_of_ofSnapshot {keepsNodes : Bool} {t' : ExitTree} (h : t.Holds H keepsNodes leaves)
    (restored : ofSnapshot t.snapshot = .ok t') : t'.Holds H false leaves := by
  obtain ⟨-, rfl⟩ := ofSnapshot_eq_ok_iff.1 restored
  exact ⟨h.count, h.room, h.frontier, h.fullRoot, rfl⟩

theorem Grown.holds (grown : Grown H leaves t) : ∃ keepsNodes, t.Holds H keepsNodes leaves := by
  induction grown with
  | fresh keepsNodes => exact ⟨keepsNodes, holds_fresh H keepsNodes⟩
  | append _ appended ih =>
    obtain ⟨keepsNodes, hold⟩ := ih
    exact ⟨keepsNodes, (holds_of_append hold appended).1⟩
  | restored _ restored ih =>
    obtain ⟨_, hold⟩ := ih
    exact ⟨false, holds_of_ofSnapshot hold restored⟩

/-- The path of a leaf is accepted. -/
theorem verify_plainPath {keepsNodes : Bool} {index : UInt32} {leaf : Digest}
    (h : t.Holds H keepsNodes leaves) (hleaf : leaves[index.toNat]? = some leaf) :
    (plainPath H leaves index.toNat).verify H index leaf (t.root H) = true := by
  rw [InclusionPath.verify, fold_plainPath hleaf, root_of_holds h]
  exact beq_self_eq_true _

/-! ## Binding -/

/-- **An accepted path is the tree's own.** Whatever leaf and path are accepted at an index against
    the root of a tree: the leaf is the tree's leaf there, empty when the tree has none, and the
    path is the tree's path, which a tree that keeps its nodes gives out itself; or at some height
    the bytes that were hashed for the path and those of the tree's node above it are different and
    have one hash. -/
theorem verify_binding {path : InclusionPath} {index : UInt32} {leaf : Digest}
    (grown : Grown H leaves t) (accepted : path.verify H index leaf (t.root H) = true) :
    (leaf = leaves.getD index.toNat .zero ∧ path = plainPath H leaves index.toNat ∧
        (t.history.isSome → index.toNat < leaves.length →
          t.leaf? index.toNat = some leaf ∧ t.path H index.toNat = .ok path)) ∨
      ∃ height : Fin treeDepth, H.Collide (path.inputAt H index leaf height)
        (plainInput H leaves height (index.toNat / 2 ^ (height + 1 : Nat))) := by
  obtain ⟨keepsNodes, hold⟩ := grown.holds
  have led : path.fold H index leaf = plainRoot H leaves := by
    rw [← root_of_holds hold]
    exact eq_of_beq accepted
  have top : index.toNat / 2 ^ path.siblings.length = 0 := by
    rw [path.length_siblings]
    exact Nat.div_eq_of_lt index.toNat_lt
  have climbed : InclusionPath.climb H path.siblings index.toNat leaf =
      plainNode H leaves (0 + path.siblings.length) (index.toNat / 2 ^ path.siblings.length) := by
    rw [top, Nat.zero_add, path.length_siblings]
    exact led
  rcases climb_binding climbed with ⟨hleaf, hsiblings⟩ | ⟨step, input, hinput, hcollide⟩
  · left
    have own : path = plainPath H leaves index.toNat := by
      obtain ⟨siblings, length⟩ := path
      rw [length] at hsiblings
      simpa [plainPath] using hsiblings
    refine ⟨hleaf, own, fun keeps inside => ?_⟩
    have hold' : t.Holds H true leaves := by
      cases keepsNodes
      · simp [hold.history] at keeps
      · exact hold
    constructor
    · rw [leaf?_of_holds hold', hleaf, plainNode, List.getD_eq_getElem _ _ inside,
        List.getElem?_eq_getElem inside]
    · rw [ExitTree.path, hold.count, pathAt_of_holds hold' (Nat.le_refl _) inside,
        List.take_length, own]
  · right
    have inside : step < treeDepth := by
      have := (List.getElem?_eq_some_iff.1 hinput).1
      simpa using this
    rw [path.getElem?_climbInputs_inputAt index leaf ⟨step, inside⟩, Option.some.injEq] at hinput
    refine ⟨⟨step, inside⟩, ?_⟩
    rw [hinput]
    simpa using hcollide

/-- The path of the second of two leaves, in a tree that keeps its nodes. -/
theorem verify_binding_second :
    let leaf : Digest := ⟨List.replicate 32 1, rfl⟩
    let leaves : List Digest := [.zero, leaf]
    let index : UInt32 := 1
    let path := plainPath .keccak leaves index.toNat
    ∃ t, Grown .keccak leaves t ∧ path.verify .keccak index leaf (t.root .keccak) = true ∧
      ((leaf = leaves.getD index.toNat .zero ∧ path = plainPath .keccak leaves index.toNat ∧
          (t.history.isSome → index.toNat < leaves.length →
            t.leaf? index.toNat = some leaf ∧ t.path .keccak index.toNat = .ok path)) ∨
        ∃ height : Fin treeDepth,
          NodeHasher.keccak.Collide (path.inputAt .keccak index leaf height)
            (plainInput .keccak leaves height (index.toNat / 2 ^ (height + 1 : Nat)))) := by
  intro leaf leaves index path
  obtain ⟨one, hone, hold⟩ := append_of_holds (holds_fresh .keccak true) (by decide) .zero
  obtain ⟨two, htwo, hold'⟩ := append_of_holds hold (by decide) leaf
  have grown : Grown .keccak leaves two := ((Grown.fresh true).append hone).append htwo
  have accepted : path.verify .keccak index leaf (two.root .keccak) = true :=
    verify_plainPath hold' rfl
  exact ⟨two, grown, accepted, verify_binding grown accepted⟩

end ExitTree

end ExitBridge
