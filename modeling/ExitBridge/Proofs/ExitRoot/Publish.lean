/-
  What publishing does to a store of global exit roots.

  * `RootAuthority.Publishes`: two halves have been published: they are the ones held, their global
    exit root is known, and nothing else has become known.
  * `publish_eq_ok`, `exists_publish`, `exists_updateRollup`: what a publication does, and that it
    succeeds as long as the L1 info tree has room.
  * `RootStore.view`: what a store holds, in either role.
  * `recordLocal_eq_ok`, `exists_recordLocal`: the same for the network's own exit root.
-/
import Mathlib.Tactic.Common
import ExitBridge.ExitRoot.Store
import ExitBridge.Proofs.ExitRoot.Rollups
import ExitBridge.Proofs.Merkle.Tree

namespace ExitBridge

/-! ## Authority -/

namespace RootAuthority

/-- Two halves have been published, with an outcome. -/
structure Publishes (H : NodeHasher) (a : RootAuthority) (roots : GlobalExitRoot)
    (o : PublishOutcome) (a' : RootAuthority) : Prop where
  mainnetExitRoot : a'.mainnetExitRoot = roots.mainnetExitRoot
  rollupExitRoot : a'.rollupExitRoot = roots.rollupExitRoot
  rollups : a'.rollups = a.rollups
  told : o.roots = roots
  globalExitRoot : o.globalExitRoot = roots.hash H
  isKnown : ∀ d, a'.isKnown d = true ↔ a.isKnown d = true ∨ d = roots.hash H

variable {H : NodeHasher} {a a' : RootAuthority} {o : PublishOutcome} {block : BlockContext}

theorem announce_eq_ok {roots : GlobalExitRoot} {update : L1InfoUpdate}
    (h : a.announce H roots block = .ok (update, a')) :
    let leaf : L1InfoLeaf := ⟨roots.hash H, block.blockHash, block.timestamp⟩
    let index := UInt32.ofNat a.l1InfoTree.count
    a.l1InfoTree.append H (leaf.hash H) = .ok (a.l1InfoTree.count, a'.l1InfoTree) ∧
      update = ⟨index, a'.l1InfoTree.root H⟩ ∧
      a'.registry = a.registry.insert (roots.hash H) ⟨roots, block.timestamp, index⟩ ∧
      a'.rollups = a.rollups := by
  simp only [announce, bind, Except.bind] at h
  split at h
  · cases h
  · rename_i answer happend
    obtain ⟨index, tree⟩ := answer
    obtain rfl : index = a.l1InfoTree.count := ExitTree.index_of_append happend
    cases h
    exact ⟨happend, rfl, rfl, rfl⟩

/-- A publication finds its global exit root known, or announces it; then it holds its halves. -/
theorem publish_cases {m r : Digest} (h : a.publish H m r block = .ok (o, a')) :
    let roots : GlobalExitRoot := ⟨m, r⟩
    ∃ l1Info a₁, o = ⟨roots.hash H, roots, l1Info⟩ ∧
      a' = { a₁ with
        mainnetExitRoot := m, rollupExitRoot := r, lastGlobalExitRoot := some (roots.hash H) } ∧
      (a.isKnown (roots.hash H) = true ∧ l1Info = none ∧ a₁ = a ∨
        a.isKnown (roots.hash H) = false ∧
          ∃ update, l1Info = some update ∧ a.announce H roots block = .ok (update, a₁)) := by
  intro roots
  cases known : a.isKnown (roots.hash H) with
  | true =>
    rw [publish, if_pos known] at h
    cases h
    exact ⟨none, a, rfl, rfl, .inl ⟨rfl, rfl, rfl⟩⟩
  | false =>
    rw [publish, if_neg (Bool.eq_false_iff.1 known)] at h
    cases hannounce : a.announce H roots block with
    | error e =>
      rw [hannounce] at h
      cases h
    | ok answer =>
      rw [hannounce] at h
      cases h
      exact ⟨_, answer.2, rfl, rfl, .inr ⟨rfl, answer.1, rfl, rfl⟩⟩

theorem publish_eq_ok {m r : Digest} (h : a.publish H m r block = .ok (o, a')) :
    a.Publishes H ⟨m, r⟩ o a' := by
  obtain ⟨l1Info, a₁, rfl, rfl, ⟨known, -, rfl⟩ | ⟨-, update, -, announced⟩⟩ := publish_cases h
  · refine ⟨rfl, rfl, rfl, rfl, rfl, fun d => ⟨.inl, ?_⟩⟩
    rintro (hd | rfl)
    · exact hd
    · exact known
  · obtain ⟨-, -, registry, rollups⟩ := announce_eq_ok announced
    refine ⟨rfl, rfl, rollups, rfl, rfl, fun d => ?_⟩
    simp only [isKnown, registry, Std.HashMap.contains_insert, Bool.or_eq_true, beq_iff_eq]
    exact Or.comm.trans (or_congr_right eq_comm)

theorem updateMainnet_eq_ok {root : Digest} (h : a.updateMainnet H root block = .ok (o, a')) :
    a.Publishes H ⟨root, a.rollupExitRoot⟩ o a' := publish_eq_ok h

theorem updateRollup_cases {index : UInt32} {root : Digest}
    (h : a.updateRollup H index root block = .ok (o, a')) :
    ∃ rollups a₁, a.rollups.set index root = .ok rollups ∧
      a.publish H a.mainnetExitRoot (rollups.root H) block = .ok (o, a₁) ∧
      a' = { a₁ with rollups := rollups } := by
  simp only [updateRollup, bind, Except.bind] at h
  split at h
  · cases h
  · rename_i rollups hset
    split at h
    · cases h
    · rename_i answer hpublish
      cases h
      exact ⟨rollups, answer.2, hset, hpublish, rfl⟩

theorem updateRollup_eq_ok {index : UInt32} {root : Digest}
    (h : a.updateRollup H index root block = .ok (o, a')) :
    a.rollups.set index root = .ok a'.rollups ∧ a'.mainnetExitRoot = a.mainnetExitRoot ∧
      a'.rollupExitRoot = a'.rollups.root H ∧ o.roots = ⟨a'.mainnetExitRoot, a'.rollupExitRoot⟩ ∧
      ∀ d, a'.isKnown d = true ↔ a.isKnown d = true ∨ d = o.roots.hash H := by
  obtain ⟨rollups, a₁, hset, hpublish, rfl⟩ := updateRollup_cases h
  have published := publish_eq_ok hpublish
  refine ⟨hset, published.mainnetExitRoot, published.rollupExitRoot, ?_, ?_⟩
  · rw [published.told]
    exact congrArg₂ _ published.mainnetExitRoot.symm published.rollupExitRoot.symm
  · rw [published.told]
    exact published.isKnown

theorem exists_publish (H : NodeHasher) (block : BlockContext) (m r : Digest)
    (room : a.l1InfoTree.isFull = false) : ∃ answer, a.publish H m r block = .ok answer := by
  simp only [publish, bind, Except.bind]
  split
  · exact ⟨_, rfl⟩
  · simp only [announce, ExitTree.append, room]
    exact ⟨_, rfl⟩

/-- A rollup's root can be folded in while the rollup is tracked and the L1 info tree has room. -/
theorem exists_updateRollup (H : NodeHasher) (block : BlockContext) {index : UInt32}
    (root : Digest) (tracked : index.toNat < maxTrackedRollups)
    (room : a.l1InfoTree.isFull = false) :
    ∃ answer, a.updateRollup H index root block = .ok answer := by
  obtain ⟨rollups, hset⟩ := a.rollups.exists_set root tracked
  obtain ⟨answer, hpublish⟩ := exists_publish H block a.mainnetExitRoot (rollups.root H) room
  refine ⟨(answer.1, { answer.2 with rollups := rollups }), ?_⟩
  simp only [updateRollup, hset, hpublish, bind, Except.bind]
  rfl

end RootAuthority

/-! ## Replica -/

theorem RootReplica.isKnown_learn (r : RootReplica) (d : Digest) (timestamp : UInt64)
    (known : Digest) : (r.learn d timestamp).2.isKnown known = true ↔
      r.isKnown known = true ∨ known = d := by
  rw [learn]
  split
  · rename_i hd
    refine ⟨.inl, ?_⟩
    rintro (h | rfl)
    · exact h
    · exact hd
  · simp only [isKnown, Std.HashMap.contains_insert, Bool.or_eq_true, beq_iff_eq]
    exact Or.comm.trans (or_congr_right eq_comm)

@[simp] theorem RootReplica.lastLocalExitRoot_learn (r : RootReplica) (d : Digest)
    (timestamp : UInt64) : (r.learn d timestamp).2.lastLocalExitRoot = r.lastLocalExitRoot := by
  rw [learn]
  split <;> rfl

/-! ## Either role -/

/-- What a store holds, without the global exit roots it knows. -/
structure RootView where
  isAuthority : Bool
  /-- The network's own exit root as it was last published. -/
  ownRoot : Digest
  rollups : RollupRoots
  rollupExitRoot : Digest

namespace RootView

/-- The halves of the authority's global exit root. -/
def halves? (v : RootView) : Option GlobalExitRoot :=
  if v.isAuthority then some ⟨v.ownRoot, v.rollupExitRoot⟩ else none

/-- The rollups' exit root is the common root of the rollups' roots. -/
def Consistent (H : NodeHasher) (v : RootView) : Prop := v.rollupExitRoot = v.rollups.root H

end RootView

namespace RootStore

/-- What the store holds; a replica keeps no root of any rollup. -/
def view : RootStore → RootView
  | authority a => ⟨true, a.mainnetExitRoot, a.rollups, a.rollupExitRoot⟩
  | replica r => ⟨false, r.lastLocalExitRoot, .empty, .zero⟩

variable {H : NodeHasher} {s s' : RootStore} {root : Digest} {block : BlockContext}

@[simp] theorem view_ofRole (isAuthority : Bool) :
    (ofRole isAuthority).view = ⟨isAuthority, .zero, .empty, .zero⟩ := by
  cases isAuthority <;> rfl

@[simp] theorem isKnown_ofRole (isAuthority : Bool) (d : Digest) :
    (ofRole isAuthority).isKnown d = false := by
  cases isAuthority <;>
    simp [ofRole, isKnown, RootAuthority.isKnown, RootReplica.isKnown, RootAuthority.empty,
      RootReplica.empty]

@[simp] theorem isAuthority_view (s : RootStore) : s.view.isAuthority = s.isAuthority := by
  cases s <;> rfl

/-- Recording the network's own exit root replaces it; the authority learns the new global exit
    root, and nothing else becomes known. -/
theorem recordLocal_eq_ok {o : Option PublishOutcome}
    (h : s.recordLocal H root block = .ok (o, s')) : s'.view = { s.view with ownRoot := root } ∧
      o.map (·.roots) = s'.view.halves? ∧
      o.map (·.globalExitRoot) = s'.view.halves?.map (·.hash H) ∧
      ∀ d, s'.isKnown d = true ↔ s.isKnown d = true ∨ ∃ p ∈ s'.view.halves?, d = p.hash H := by
  cases s with
  | authority a =>
    simp only [recordLocal, bind, Except.bind] at h
    split at h
    · cases h
    · rename_i answer hupdate
      cases h
      have published := RootAuthority.updateMainnet_eq_ok hupdate
      have view : (authority answer.2).view = { (authority a).view with ownRoot := root } := by
        simp only [RootStore.view, published.mainnetExitRoot, published.rollupExitRoot,
          published.rollups]
      refine ⟨view, ?_, ?_, fun d => ?_⟩
      · rw [view, Option.map_some, published.told]
        rfl
      · rw [view, Option.map_some, published.globalExitRoot]
        rfl
      · rw [view]
        refine (published.isKnown d).trans (or_congr_right ?_)
        simp [RootView.halves?, RootStore.view]
  | replica r =>
    cases h
    exact ⟨rfl, rfl, rfl, fun d => by
      simp [RootView.halves?, RootStore.view, isKnown, RootReplica.isKnown]⟩

theorem exists_recordLocal (H : NodeHasher) (block : BlockContext) (root : Digest)
    (room : s.canPublish = true) : ∃ answer, s.recordLocal H root block = .ok answer := by
  cases s with
  | authority a =>
    obtain ⟨answer, h⟩ := RootAuthority.exists_publish H block root a.rollupExitRoot
      (show a.l1InfoTree.isFull = false by simpa [canPublish] using room)
    refine ⟨(some answer.1, authority answer.2), ?_⟩
    simp only [recordLocal, RootAuthority.updateMainnet, h, bind, Except.bind]
    rfl
  | replica r => exact ⟨_, rfl⟩

end RootStore

end ExitBridge
