/-
  Published roots describe real states.

  The count, the network's own root, the rollups' common root and the last global exit root are set
  by different calls. What binds them together is kept by every move.

  * `RootStore.KnowsLast`: the last global exit root is known, and that of the halves held.
  * `Ledger.Points`: what a ledger points at, with the leaves of its tree.
  * `Ledger.Moves.points`, `Session.points`: one move keeps it; so it holds of all sessions.
  * `published_roots_describe_states`: authority and replica.
-/
import ExitBridge.Execution.Host
import ExitBridge.Ledger.View
import ExitBridge.Proofs.Merkle.Past
import ExitBridge.Proofs.Network.Feed
import ExitBridge.Proofs.Network.Session
import ExitBridge.Proofs.Result

namespace ExitBridge

/-! ## The last global exit root -/

/-- The last global exit root is known, and the hash of the two halves that are held. -/
def RootAuthority.KnowsLast (H : NodeHasher) (a : RootAuthority) : Prop :=
  ∀ d, a.lastGlobalExitRoot = some d → a.isKnown d = true ∧
    d = H.hash (a.mainnetExitRoot.toList ++ a.rollupExitRoot.toList)

namespace RootAuthority

variable {H : NodeHasher} {a a' : RootAuthority} {o : PublishOutcome} {block : BlockContext}

theorem knowsLast_of_publish {m r : Digest} (h : a.publish H m r block = .ok (o, a')) :
    a'.KnowsLast H := by
  have isKnown := (publish_eq_ok h).isKnown
  obtain ⟨-, a₁, -, rfl, -⟩ := publish_cases h
  rintro d ⟨⟩
  exact ⟨(isKnown _).2 (.inr rfl), rfl⟩

theorem knowsLast_of_updateRollup {index : UInt32} {root : Digest}
    (h : a.updateRollup H index root block = .ok (o, a')) : a'.KnowsLast H := by
  obtain ⟨rollups, a₁, -, hpublish, rfl⟩ := updateRollup_cases h
  have published : a₁.KnowsLast H := knowsLast_of_publish hpublish
  exact published

end RootAuthority

/-- A replica keeps no last global exit root. -/
def RootStore.KnowsLast (H : NodeHasher) : RootStore → Prop
  | authority a => a.KnowsLast H
  | replica _ => True

theorem RootStore.knowsLast_ofRole (H : NodeHasher) (isAuthority : Bool) :
    (RootStore.ofRole isAuthority).KnowsLast H := by
  cases isAuthority with
  | false => trivial
  | true => exact nofun

theorem RootStore.knowsLast_of_recordLocal {H : NodeHasher} {s s' : RootStore} {root : Digest}
    {block : BlockContext} {outcome? : Option PublishOutcome}
    (h : s.recordLocal H root block = .ok (outcome?, s')) : s'.KnowsLast H := by
  cases s with
  | authority a =>
    obtain ⟨⟨outcome, a'⟩, published, hstored⟩ := except_bind_eq_ok.1 h
    cases hstored
    exact RootAuthority.knowsLast_of_publish published
  | replica r =>
    cases h
    trivial

/-! ## Moves -/

/-- Does a move publish the root of the tree? -/
def Move.publishes : Move → Bool
  | publish _ _ => true
  | _ => false

/-- What a ledger points at describes its tree, which has these leaves: the network's own root is
    that of the leaves at the last publication, or the zero word if there was none. -/
structure Ledger.Points (H : NodeHasher) (published : Prop) (leaves : List Digest) (l : Ledger) :
    Prop where
  tree : l.tree.Holds H true leaves
  count : l.lastUpdatedCount ≤ leaves.length
  unpublished : ¬published → l.roots.view.ownRoot = .zero
  ownRoot : published → l.roots.view.ownRoot = plainRoot H (leaves.take l.lastUpdatedCount)
  consistent : l.roots.view.Consistent H
  last : l.roots.KnowsLast H

namespace Ledger

variable {D : Deployment} {l l' : Ledger} {m : Move} {moves : List Move} {published : Prop}
  {leaves : List Digest}

theorem points_genesis (H : NodeHasher) (config : LedgerConfig) :
    (Deployment.genesis config).Points H False [] := by
  have view : (Deployment.genesis config).roots.view =
      ⟨config.isAggregatorAuthority, .zero, .empty, .zero⟩ := RootStore.view_ofRole _
  refine ⟨ExitTree.holds_fresh H true, Nat.le_refl _, ?_, nofun, ?_, RootStore.knowsLast_ofRole H _⟩
  · rw [view]
    exact fun _ => rfl
  · rw [view]
    rfl

theorem Points.congr {H : NodeHasher} {published' : Prop} (h : l.Points H published leaves)
    (iff : published' ↔ published) : l.Points H published' leaves := propext iff ▸ h

theorem Points.of_same {H : NodeHasher} (h : l.Points H published leaves)
    (tree : l'.tree = l.tree) (count : l'.lastUpdatedCount = l.lastUpdatedCount)
    (roots : l'.roots = l.roots) : l'.Points H published leaves := by
  obtain ⟨hold, le, unpublished, ownRoot, consistent, last⟩ := h
  exact ⟨tree ▸ hold, count ▸ le, roots ▸ unpublished, by rwa [roots, count], roots ▸ consistent,
    roots ▸ last⟩

/-- **One move** keeps what a ledger points at. -/
theorem Moves.points (h : l.Moves D m l') (points : l.Points D.hasher published leaves) :
    ∃ more, l'.Points D.hasher (published ∨ m.publishes = true) (leaves ++ more) := by
  have quiet (h : m.publishes = false) : (published ∨ m.publishes = true) = published := by
    simp [h]
  cases h with
  | @append e tree _ appended =>
    obtain ⟨hold, -⟩ := ExitTree.holds_of_append points.tree appended
    refine ⟨[(e.leaf D.hasher).hash D.hasher], hold, ?_, ?_, ?_, points.consistent, points.last⟩
    · exact points.count.trans (by simp)
    · rw [quiet rfl]
      exact points.unpublished
    · rw [quiet rfl, List.take_append_of_le_length points.count]
      exact points.ownRoot
  | @publish block outcome? roots recorded =>
    obtain ⟨view, -⟩ := RootStore.recordLocal_eq_ok recorded
    refine ⟨[], by rw [List.append_nil]; exact points.tree, ?_, fun never => ?_, fun _ => ?_, ?_,
      RootStore.knowsLast_of_recordLocal recorded⟩
    · exact Nat.le_of_eq (by rw [List.append_nil, points.tree.count])
    · exact absurd (.inr rfl) never
    · rw [view, List.append_nil, points.tree.count, List.take_length]
      exact ExitTree.root_of_holds points.tree
    · rw [view]
      exact points.consistent
  | @fold a a' index root block outcome authority updated =>
    obtain ⟨-, mainnetExitRoot, rollupExitRoot, -⟩ := RootAuthority.updateRollup_eq_ok updated
    have own : (RootStore.authority a').view.ownRoot = l.roots.view.ownRoot := by
      rw [authority]
      exact mainnetExitRoot
    refine ⟨[], ?_⟩
    rw [quiet rfl, List.append_nil]
    refine ⟨points.tree, points.count, own ▸ points.unpublished, own ▸ points.ownRoot,
      rollupExitRoot, RootAuthority.knowsLast_of_updateRollup updated⟩
  | @learn r roots timestamp replica =>
    have own : (RootStore.replica (r.learn (roots.hash D.hasher) timestamp).2).view.ownRoot =
        l.roots.view.ownRoot := by
      rw [replica]
      exact r.lastLocalExitRoot_learn _ _
    refine ⟨[], ?_⟩
    rw [quiet rfl, List.append_nil]
    exact ⟨points.tree, points.count, own ▸ points.unpublished, own ▸ points.ownRoot, rfl, trivial⟩
  | _ =>
    refine ⟨[], ?_⟩
    rw [quiet rfl, List.append_nil]
    exact points.of_same rfl rfl rfl

theorem Chain.points (h : l.Chain D moves l') (points : l.Points D.hasher published leaves) :
    ∃ more, l'.Points D.hasher (published ∨ moves.any Move.publishes = true) (leaves ++ more) := by
  induction h generalizing published leaves with
  | nil => exact ⟨[], by simpa using points⟩
  | cons first _ ih =>
    obtain ⟨more, points⟩ := first.points points
    obtain ⟨others, points⟩ := ih points
    refine ⟨more ++ others, ?_⟩
    rw [← List.append_assoc]
    exact points.congr (by rw [List.any_cons, Bool.or_eq_true, or_assoc])

end Ledger

/-! ## Steps -/

section

variable {σ : Type} [ExecutionHost σ] {D : Deployment} {s : BridgeState σ} {host : σ}
  {call : Call} {answer : Answer} {moves : List Move}

/-- The root of the tree is published by the calls that say so, and by no other. -/
theorem Call.Makes.any_publishes (h : call.Makes D s answer moves host) :
    moves.any Move.publishes = call.publishes := by
  cases h with
  | deposit _ quiet => exact quiet.symm
  | depositPublished _ loud => exact loud.symm
  | @claim kind c receipt key host honours =>
    rw [Claim.moves, List.any_append]
    cases receipt.newWrappedToken <;> rfl
  | @ingest batch count =>
    refine List.any_eq_false.2 fun m hm => ?_
    obtain ⟨roots, timestamp, rfl⟩ := Move.exists_of_mem_lessons hm
    exact Bool.false_ne_true
  | _ => rfl

end

variable {σ : Type} [ExecutionHost σ] {D : Deployment} {handled : σ → σ → Prop}
  {past : List (Step σ)} {now : BridgeState σ} {leaves : List Digest}

/-- The network's own root is published. -/
def Step.Publishes (D : Deployment) (m : Step σ) : Prop :=
  m.call.publishes = true ∧ ∃ answer, m.answer D = .ok answer

theorem Step.points {m : Step σ} {published : Prop}
    (points : m.before.ledger.Points D.hasher published leaves) :
    ∃ more, (m.after D).ledger.Points D.hasher (published ∨ m.Publishes D) (leaves ++ more) := by
  obtain ⟨moves, chain, step⟩ := m.exists_chain D
  obtain ⟨more, points⟩ := chain.points points
  refine ⟨more, points.congr (or_congr_right ?_)⟩
  rw [Step.Publishes]
  rcases step with ⟨answer, answered, makes⟩ | ⟨⟨e, refused⟩, rfl⟩
  · simp [answered, makes.any_publishes]
  · simp [refused]

/-- At any time of a session, what its ledger points at describes its tree. -/
theorem Session.points (session : Session D handled past now) :
    ∃ leaves, now.ledger.Points D.hasher (∃ m ∈ past, m.Publishes D) leaves := by
  induction session with
  | start created =>
    rw [genesis_of_create created]
    exact ⟨[], (Ledger.points_genesis _ _).congr (by simp)⟩
  | @call past m _ ih =>
    obtain ⟨leaves, points⟩ := ih
    obtain ⟨more, points⟩ := Step.points points
    exact ⟨leaves ++ more, points.congr (by simp [or_and_right, exists_or])⟩
  | host _ _ ih => exact ih

/-! ## All sessions -/

/-- **Published roots describe real states.** At any time of a session, the count at the last
    publication is within the tree. The network's own root (an authority's mainnet exit root, a
    replica's last exit root) is the zero word if none has been published, and else the root that
    the tree had with that count. On the authority, the rollups' exit root is the root of the
    rollups' roots; the last global exit root is known and the hash of the two exit roots held; and
    every rollup's root has a path that leads to the rollups' exit root. -/
theorem published_roots_describe_states (session : Session D handled past now) :
    now.ledger.lastUpdatedCount ≤ now.ledger.tree.count ∧
    (∀ a, now.ledger.roots = .authority a →
      ((∀ m ∈ past, ¬m.Publishes D) → a.mainnetExitRoot = .zero) ∧
      ((∃ m ∈ past, m.Publishes D) →
        now.ledger.rootAt D now.ledger.lastUpdatedCount = .ok a.mainnetExitRoot) ∧
      a.rollupExitRoot = a.rollups.root D.hasher ∧
      (∀ d, a.lastGlobalExitRoot = some d → a.isKnown d = true ∧
        d = D.hasher.hash (a.mainnetExitRoot.toList ++ a.rollupExitRoot.toList)) ∧
      ∀ (i : UInt32) (root : Digest), a.rollups.get? i = some root →
        ∃ path, now.ledger.rollupPath D i = .ok path ∧
          path.verify D.hasher i root a.rollupExitRoot = true) ∧
    ∀ r, now.ledger.roots = .replica r →
      ((∀ m ∈ past, ¬m.Publishes D) → r.lastLocalExitRoot = .zero) ∧
      ((∃ m ∈ past, m.Publishes D) →
        now.ledger.rootAt D now.ledger.lastUpdatedCount = .ok r.lastLocalExitRoot) := by
  obtain ⟨leaves, points⟩ := session.points
  have never (h : ∀ m ∈ past, ¬m.Publishes D) : now.ledger.roots.view.ownRoot = .zero :=
    points.unpublished fun ⟨m, hm, publishes⟩ => h m hm publishes
  have once (h : ∃ m ∈ past, m.Publishes D) :
      now.ledger.rootAt D now.ledger.lastUpdatedCount = .ok now.ledger.roots.view.ownRoot := by
    rw [Ledger.rootAt, ExitTree.rootAt_of_holds points.tree points.count, points.ownRoot h]
  have consistent := points.consistent
  have last := points.last
  refine ⟨points.tree.count ▸ points.count, fun a authority => ?_, fun r replica => ?_⟩
  · rw [authority] at never once consistent last
    refine ⟨never, once, consistent, last, fun i root hroot => ?_⟩
    obtain ⟨path, hpath, hfold⟩ := RollupRoots.exists_path (H := D.hasher) hroot
    refine ⟨path, by rw [Ledger.rollupPath, authority]; exact hpath, ?_⟩
    rw [InclusionPath.verify, hfold, beq_iff_eq]
    exact consistent.symm
  · rw [replica] at never once
    exact ⟨never, once⟩

/-- Network 1 has published its first message, and network 0 the root that this made. -/
theorem published_roots_describe_states_first :
    (∃ (D : Deployment) (past : List (Step Host)) (now : BridgeState Host) (r : RootReplica),
      Session D (fun _ _ => True) past now ∧ now.ledger.roots = .replica r ∧
        (∃ m ∈ past, m.Publishes D) ∧
        now.ledger.rootAt D now.ledger.lastUpdatedCount = .ok r.lastLocalExitRoot) ∧
    ∃ (D : Deployment) (past : List (Step Host)) (now : BridgeState Host) (a : RootAuthority)
      (root : Digest) (path : InclusionPath),
      Session D (fun _ _ => True) past now ∧ now.ledger.roots = .authority a ∧
        a.rollups.get? 0 = some root ∧ now.ledger.rollupPath D 0 = .ok path ∧
        path.verify D.hasher 0 root a.rollupExitRoot = true := by
  have run := Run.first .keccak Host.accepting
  constructor
  · obtain ⟨host, session⟩ := run.session (n := 1) (if_neg nofun)
    obtain ⟨-, -, replica⟩ := published_roots_describe_states session
    have published : ∃ m ∈ stepsOf [Moment.firstMessage .keccak Host.accepting,
        .firstFold .keccak Host.accepting] 1, m.Publishes (Member.first .keccak 1).deployment :=
      ⟨_, List.mem_singleton_self _, rfl, _, rfl⟩
    exact ⟨_, _, _, _, session, rfl, published, (replica _ rfl).2 published⟩
  · obtain ⟨host, session⟩ := run.session (n := 0) (if_pos rfl)
    obtain ⟨a, authority, stored, -⟩ := Moment.exists_firstFold .keccak Host.accepting
    obtain ⟨-, described, -⟩ := published_roots_describe_states session
    obtain ⟨-, -, -, -, proved⟩ := described a authority
    obtain ⟨path, hpath, verified⟩ := proved 0 _ stored
    exact ⟨_, _, _, a, _, path, session, authority, stored, hpath, verified⟩

end ExitBridge
