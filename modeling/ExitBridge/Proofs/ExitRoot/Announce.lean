/-
  What an authority keeps of the global exit roots that it has published.

  The first publication of a global exit root is announced: a leaf of the L1 info tree, a record,
  and an update that the world is told of. Any later one leaves tree and records as they are.

  * `Announcement`: an update, and the block in which it was made.
  * `RootAuthority.Announces`: a publication announces a new global exit root, or the global exit
    root was known.
  * `RootAuthority.Records`: tree and records are those of the announcements made so far;
    `Records.announces`: one publication more; `Records.exists_path`: every leaf can be proved.
  * `RootStore.Records`: the same of a store, in either role.
-/
import ExitBridge.Ledger.Basic
import ExitBridge.Proofs.ExitRoot.Publish
import ExitBridge.Proofs.Merkle.Binding

namespace ExitBridge

/-! ## Announcements -/

/-- An update of the L1 info tree, and the block in which it was made. -/
structure Announcement where
  update : L1InfoTreeUpdate
  block : BlockContext

namespace Announcement

/-- The halves of the global exit root that is announced. -/
def roots (n : Announcement) : GlobalExitRoot :=
  ⟨n.update.mainnetExitRoot, n.update.rollupExitRoot⟩

/-- The leaf that is added to the L1 info tree. -/
def leaf (n : Announcement) : L1InfoLeaf :=
  ⟨n.update.globalExitRoot, n.block.blockHash, n.block.timestamp⟩

/-- What is recorded. -/
def record (n : Announcement) : GlobalExitRootRecord :=
  ⟨n.roots, n.block.timestamp, n.update.l1InfoIndex⟩

theorem hash_roots (H : NodeHasher) (n : Announcement) : n.roots.hash H =
    H.hash (n.update.mainnetExitRoot.toList ++ n.update.rollupExitRoot.toList) := rfl

theorem hash_leaf (H : NodeHasher) (n : Announcement) : n.leaf.hash H =
    H.hash (n.update.globalExitRoot.toList ++ n.block.blockHash.toList ++
      bigEndian 8 n.block.timestamp.toNat) := rfl

/-- The update tells of the last of the leaves. -/
structure Fits (H : NodeHasher) (leaves : List Digest) (n : Announcement) : Prop where
  globalExitRoot : n.update.globalExitRoot = n.roots.hash H
  timestamp : n.update.timestamp = n.block.timestamp
  l1InfoIndex : n.update.l1InfoIndex.toNat + 1 = leaves.length
  l1InfoRoot : n.update.l1InfoRoot = plainRoot H leaves

/-- When one more announcement fits, each still fits the leaves up to its own. -/
theorem fits_snoc {H : NodeHasher} {news : List Announcement} {last : Announcement}
    (before : ∀ k (n : Announcement), news[k]? = some n →
      n.Fits H ((news.map (·.leaf.hash H)).take (k + 1)))
    (fits : last.Fits H (news.map (·.leaf.hash H) ++ [last.leaf.hash H]))
    (k : Nat) (n : Announcement) (hn : (news ++ [last])[k]? = some n) :
    n.Fits H (((news ++ [last]).map (·.leaf.hash H)).take (k + 1)) := by
  rw [List.map_append, List.map_singleton]
  rcases Nat.lt_trichotomy k news.length with old | rfl | beyond
  · rw [List.getElem?_append_left old] at hn
    rw [List.take_append_of_le_length (by simpa using Nat.succ_le_of_lt old)]
    exact before k n hn
  · rw [List.getElem?_concat_length] at hn
    obtain rfl := Option.some.inj hn
    rwa [List.take_of_length_le (by simp)]
  · rw [List.getElem?_eq_none (by simpa using Nat.succ_le_of_lt beyond)] at hn
    cases hn

end Announcement

namespace PublishOutcome

/-- The announcement that a publication makes. -/
def announcement? (o : PublishOutcome) (block : BlockContext) : Option Announcement :=
  o.l1Info.map fun update => ⟨
    { mainnetExitRoot := o.roots.mainnetExitRoot
      rollupExitRoot := o.roots.rollupExitRoot
      globalExitRoot := o.globalExitRoot
      l1InfoIndex := update.leafIndex
      l1InfoRoot := update.l1InfoRoot
      timestamp := block.timestamp }, block⟩

variable {o : PublishOutcome} {block : BlockContext}

theorem event?_eq (o : PublishOutcome) (block : BlockContext) :
    o.event? block = (o.announcement? block).map fun n => .updateL1InfoTree n.update := by
  rw [event?, announcement?, Option.map_map]
  rfl

theorem of_announcement? {n : Announcement} (h : o.announcement? block = some n) :
    n.block = block ∧ n.update.globalExitRoot = o.globalExitRoot := by
  obtain ⟨update, -, rfl⟩ := Option.map_eq_some_iff.1 h
  exact ⟨rfl, rfl⟩

end PublishOutcome

/-! ## Authority -/

namespace RootAuthority

/-- A publication announces a new global exit root, or the global exit root was known. -/
inductive Announces (H : NodeHasher) (a : RootAuthority) (o : PublishOutcome)
    (block : BlockContext) (a' : RootAuthority) : Prop
  | new {n : Announcement} (told : o.announcement? block = some n)
      (fresh : a.isKnown n.update.globalExitRoot = false)
      (globalExitRoot : n.update.globalExitRoot = n.roots.hash H)
      (timestamp : n.update.timestamp = n.block.timestamp)
      (l1InfoIndex : n.update.l1InfoIndex = UInt32.ofNat a.l1InfoTree.count)
      (l1InfoRoot : n.update.l1InfoRoot = a'.l1InfoTree.root H)
      (appended : a.l1InfoTree.append H (n.leaf.hash H) = .ok (a.l1InfoTree.count, a'.l1InfoTree))
      (registry : a'.registry = a.registry.insert n.update.globalExitRoot n.record)
  | again (told : o.announcement? block = none) (known : a.isKnown o.globalExitRoot = true)
      (l1InfoTree : a'.l1InfoTree = a.l1InfoTree) (registry : a'.registry = a.registry)

variable {H : NodeHasher} {a a' : RootAuthority} {o : PublishOutcome} {block : BlockContext}

theorem publish_announces {m r : Digest} (h : a.publish H m r block = .ok (o, a')) :
    a.Announces H o block a' := by
  obtain ⟨l1Info, a₁, rfl, rfl, ⟨known, rfl, rfl⟩ | ⟨fresh, update, rfl, announced⟩⟩ :=
    publish_cases h
  · exact .again rfl known rfl rfl
  · obtain ⟨appended, rfl, registry, -⟩ := announce_eq_ok announced
    exact .new rfl fresh rfl rfl rfl rfl appended registry

theorem updateRollup_announces {index : UInt32} {root : Digest}
    (h : a.updateRollup H index root block = .ok (o, a')) : a.Announces H o block a' := by
  obtain ⟨rollups, a₁, -, hpublish, rfl⟩ := updateRollup_cases h
  cases publish_announces hpublish with
  | new told fresh globalExitRoot timestamp l1InfoIndex l1InfoRoot appended registry =>
    exact .new told fresh globalExitRoot timestamp l1InfoIndex l1InfoRoot appended registry
  | again told known l1InfoTree registry => exact .again told known l1InfoTree registry

namespace Announces

theorem isKnown (h : a.Announces H o block a') (d : Digest) :
    a'.isKnown d = true ↔ a.isKnown d = true ∨ o.globalExitRoot = d := by
  cases h with
  | new told fresh _ _ _ _ _ registry =>
    rw [← (PublishOutcome.of_announcement? told).2, RootAuthority.isKnown, registry,
      Std.HashMap.contains_insert, Bool.or_eq_true, beq_iff_eq]
    exact Or.comm
  | again _ known _ registry =>
    rw [RootAuthority.isKnown, registry]
    constructor
    · exact .inl
    · rintro (old | rfl)
      · exact old
      · exact known

theorem record?_eq_some (h : a.Announces H o block a') {d : Digest} {r : GlobalExitRootRecord}
    (old : a.record? d = some r) : a'.record? d = some r := by
  cases h with
  | new _ fresh _ _ _ _ _ registry =>
    rw [RootAuthority.record?, registry, Std.HashMap.getElem?_insert]
    split
    · -- it would have been known
      rename_i same
      rw [eq_of_beq same, RootAuthority.isKnown, Std.HashMap.contains_eq_isSome_getElem?] at fresh
      rw [RootAuthority.record?] at old
      rw [old] at fresh
      cases fresh
    · exact old
  | again _ _ _ registry => rwa [RootAuthority.record?, registry]

end Announces

/-- Tree and records are those of the announcements made so far, oldest first. -/
structure Records (H : NodeHasher) (news : List Announcement) (a : RootAuthority) : Prop where
  l1InfoTree : a.l1InfoTree.Holds H true (news.map (·.leaf.hash H))
  knownCount : a.knownCount = news.length
  isKnown : ∀ d, a.isKnown d = true ↔ ∃ n ∈ news, n.update.globalExitRoot = d
  fits : ∀ k (n : Announcement), news[k]? = some n →
    n.Fits H ((news.map (·.leaf.hash H)).take (k + 1))
  record : ∀ n ∈ news, a.record? n.update.globalExitRoot = some n.record

variable {news : List Announcement}

theorem records_empty (H : NodeHasher) : Records H [] empty where
  l1InfoTree := ExitTree.holds_fresh H true
  knownCount := rfl
  isKnown d := by simp [RootAuthority.isKnown, empty]
  fits := by simp
  record := by simp

theorem Records.of_same (records : a.Records H news) (l1InfoTree : a'.l1InfoTree = a.l1InfoTree)
    (registry : a'.registry = a.registry) : a'.Records H news := by
  refine ⟨l1InfoTree ▸ records.l1InfoTree, ?_, fun d => ?_, records.fits, fun n hn => ?_⟩
  · rw [RootAuthority.knownCount, registry]
    exact records.knownCount
  · rw [RootAuthority.isKnown, registry]
    exact records.isKnown d
  · rw [RootAuthority.record?, registry]
    exact records.record n hn

theorem Records.announces (records : a.Records H news) (h : a.Announces H o block a') :
    a'.Records H (news ++ (o.announcement? block).toList) := by
  have isKnown := h.isKnown
  have stays {d : Digest} {r : GlobalExitRootRecord} := h.record?_eq_some (d := d) (r := r)
  cases h with
  | again told known l1InfoTree registry =>
    rw [told, Option.toList_none, List.append_nil]
    exact records.of_same l1InfoTree registry
  | @new n told fresh globalExitRoot timestamp l1InfoIndex l1InfoRoot appended registry =>
    obtain ⟨hold, -⟩ := ExitTree.holds_of_append records.l1InfoTree appended
    have leaves : (news ++ [n]).map (·.leaf.hash H) =
        news.map (·.leaf.hash H) ++ [n.leaf.hash H] := by simp
    have count : a.l1InfoTree.count = news.length := by simpa using records.l1InfoTree.count
    have room : news.length < maxLeafCount := Nat.lt_of_succ_le (by simpa using hold.room)
    have fits : n.Fits H (news.map (·.leaf.hash H) ++ [n.leaf.hash H]) := by
      refine ⟨globalExitRoot, timestamp, ?_, l1InfoRoot.trans (ExitTree.root_of_holds hold)⟩
      rw [l1InfoIndex, count, UInt32.toNat_ofNat_of_lt' room]
      simp
    rw [told, Option.toList_some]
    refine ⟨leaves ▸ hold, ?_, fun d => ?_, Announcement.fits_snoc records.fits fits, ?_⟩
    · rw [RootAuthority.knownCount, registry, Std.HashMap.size_insert,
        if_neg (by simpa [RootAuthority.isKnown] using fresh), List.length_append]
      exact congrArg (· + 1) records.knownCount
    · rw [isKnown, records.isKnown, ← (PublishOutcome.of_announcement? told).2]
      simp [or_and_right, exists_or]
    · intro n' hn'
      rcases List.mem_append.1 hn' with old | new
      · exact stays (records.record n' old)
      · obtain rfl := List.mem_singleton.1 new
        rw [RootAuthority.record?, registry, Std.HashMap.getElem?_insert_self]

theorem Records.l1InfoIndex (records : a.Records H news) {k : Nat} {n : Announcement}
    (hn : news[k]? = some n) : n.update.l1InfoIndex.toNat = k := by
  have fits := (records.fits k n hn).l1InfoIndex
  obtain ⟨inside, -⟩ := List.getElem?_eq_some_iff.1 hn
  rw [List.length_take_of_le (by simpa using Nat.succ_le_of_lt inside)] at fits
  exact Nat.succ.inj fits

theorem Records.record_of_mem (records : a.Records H news) {n : Announcement} (hn : n ∈ news) :
    a.record? (n.roots.hash H) = some n.record ∧ n.update.timestamp = n.block.timestamp := by
  obtain ⟨k, hk⟩ := List.getElem?_of_mem hn
  have fits := records.fits k n hk
  exact ⟨fits.globalExitRoot ▸ records.record n hn, fits.timestamp⟩

/-- The tree has the leaf of each announcement at its index, and a path that proves it. -/
theorem Records.exists_path (records : a.Records H news) {k : Nat} {n : Announcement}
    (hn : news[k]? = some n) : a.l1InfoTree.leaf? k = some (n.leaf.hash H) ∧
      ∃ path, a.l1InfoTree.path H k = .ok path ∧
        path.verify H n.update.l1InfoIndex (n.leaf.hash H) (a.l1InfoTree.root H) = true := by
  have hleaf : (news.map (·.leaf.hash H))[k]? = some (n.leaf.hash H) := by
    rw [List.getElem?_map, hn, Option.map_some]
  obtain ⟨inside, -⟩ := List.getElem?_eq_some_iff.1 hleaf
  refine ⟨(ExitTree.leaf?_of_holds records.l1InfoTree k).trans hleaf,
    plainPath H (news.map (·.leaf.hash H)) k, ?_, ?_⟩
  · rw [ExitTree.path, records.l1InfoTree.count,
      ExitTree.pathAt_of_holds records.l1InfoTree (Nat.le_refl _) inside, List.take_length]
  · have index := records.l1InfoIndex hn
    subst index
    exact ExitTree.verify_plainPath records.l1InfoTree hleaf

end RootAuthority

/-! ## Either role -/

namespace RootStore

/-- The records of a store; a replica announces nothing. -/
def Records (H : NodeHasher) (news : List Announcement) : RootStore → Prop
  | authority a => a.Records H news
  | replica _ => news = []

/-- What was recorded when the global exit root was first published; a replica keeps no records. -/
def record? : RootStore → Digest → Option GlobalExitRootRecord
  | authority a => a.record?
  | replica _ => fun _ => none

theorem records_ofRole (H : NodeHasher) (isAuthority : Bool) : (ofRole isAuthority).Records H [] := by
  cases isAuthority with
  | false => rfl
  | true => exact RootAuthority.records_empty H

/-- The authority makes a publication, which may announce a global exit root; a replica makes none,
    and learns nothing. -/
inductive Announces (H : NodeHasher) (block : BlockContext) :
    RootStore → Option PublishOutcome → RootStore → Prop
  | authority {a a' : RootAuthority} {o : PublishOutcome} (h : a.Announces H o block a') :
      Announces H block (authority a) (some o) (authority a')
  | replica {r r' : RootReplica} (registry : r'.registry = r.registry) :
      Announces H block (replica r) none (replica r')

variable {H : NodeHasher} {s s' : RootStore} {root : Digest} {block : BlockContext}
  {outcome? : Option PublishOutcome}

theorem recordLocal_announces (h : s.recordLocal H root block = .ok (outcome?, s')) :
    s.Announces H block outcome? s' := by
  cases s with
  | authority a =>
    simp only [recordLocal, bind, Except.bind] at h
    split at h
    · cases h
    · rename_i answer hupdate
      cases h
      exact .authority (RootAuthority.publish_announces hupdate)
  | replica r =>
    cases h
    exact .replica rfl

namespace Announces

theorem records {news : List Announcement} (h : s.Announces H block outcome? s')
    (records : s.Records H news) :
    s'.Records H (news ++ (outcome?.bind (·.announcement? block)).toList) := by
  cases h with
  | authority h => exact RootAuthority.Records.announces records h
  | replica => exact (List.append_nil news).trans records

theorem isKnown (h : s.Announces H block outcome? s') (d : Digest) :
    s'.isKnown d = true ↔ s.isKnown d = true ∨ outcome?.map (·.globalExitRoot) = some d := by
  cases h with
  | authority h => simpa [RootStore.isKnown] using h.isKnown d
  | replica registry => simp [RootStore.isKnown, RootReplica.isKnown, registry]

theorem record?_eq_some (h : s.Announces H block outcome? s') {d : Digest}
    {r : GlobalExitRootRecord} (old : s.record? d = some r) : s'.record? d = some r := by
  cases h with
  | authority h => exact h.record?_eq_some old
  | replica => cases old

theorem fresh (h : s.Announces H block outcome? s') {n : Announcement}
    (hn : outcome?.bind (·.announcement? block) = some n) :
    s.isKnown n.update.globalExitRoot = false := by
  cases h with
  | authority h =>
    cases h with
    | new told fresh =>
      obtain rfl := Option.some.inj (told.symm.trans hn)
      exact fresh
    | again told => exact absurd (told.symm.trans hn) nofun
  | replica => cases hn

end Announces

end RootStore

end ExitBridge
