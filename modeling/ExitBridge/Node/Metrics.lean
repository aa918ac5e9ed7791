/-
  What a node counts.

  Counters count what has happened since the node was created; gauges are readings of the ledger as
  they were last taken.

  * `Counts`: a counter for every label that has occurred.
  * `Metrics`, `Metrics.text`.
-/
import ExitBridge.Leaf
import ExitBridge.Node.Exposition

namespace ExitBridge

/-! ## Counters by label -/

/-- How often each label has occurred. -/
structure Counts (α : Type) where
  entries : List (α × Nat)
  deriving DecidableEq, Inhabited

namespace Counts

variable {α : Type} [DecidableEq α]

/-- No label has occurred. -/
def empty : Counts α := ⟨[]⟩

/-- The number in the first entry of a label. -/
def countIn (a : α) : List (α × Nat) → Nat
  | [] => 0
  | (b, n) :: rest => if a = b then n else countIn a rest

/-- How often a label has occurred. -/
def count (c : Counts α) (a : α) : Nat := countIn a c.entries

/-- One more in the entry of a label, or a new entry at the end. -/
def bump (a : α) : List (α × Nat) → List (α × Nat)
  | [] => [(a, 1)]
  | (b, n) :: rest => if a = b then (b, n + 1) :: rest else (b, n) :: bump a rest

/-- A label occurs once more. -/
def increment (c : Counts α) (a : α) : Counts α := ⟨bump a c.entries⟩

/-- How often all labels together have occurred. -/
def total (c : Counts α) : Nat := c.entries.foldr (·.2 + ·) 0

/-- The samples of a counter. -/
def samples (c : Counts α) (labels : α → List (String × String)) : List Sample :=
  c.entries.map fun (a, n) => ⟨labels a, n⟩

@[simp] theorem count_empty (a : α) : (empty : Counts α).count a = 0 := rfl

theorem countIn_bump (a b : α) (entries : List (α × Nat)) :
    countIn b (bump a entries) = countIn b entries + if b = a then 1 else 0 := by
  induction entries with
  | nil => simp [bump, countIn]
  | cons e rest ih =>
    obtain ⟨c, n⟩ := e
    by_cases hac : a = c
    · by_cases hbc : b = c <;> simp [bump, countIn, hac, hbc]
    · by_cases hbc : b = c
      · have hca : ¬ c = a := fun h => hac h.symm
        simp [bump, countIn, hac, hbc, hca]
      · simp [bump, countIn, hac, hbc, ih]

@[simp] theorem count_increment (c : Counts α) (a b : α) :
    (c.increment a).count b = c.count b + if b = a then 1 else 0 :=
  countIn_bump a b c.entries

@[simp] theorem total_increment (c : Counts α) (a : α) :
    (c.increment a).total = c.total + 1 := by
  obtain ⟨entries⟩ := c
  induction entries with
  | nil => rfl
  | cons e rest ih =>
    obtain ⟨b, n⟩ := e
    by_cases h : a = b
    · simp [increment, total, bump, h]; omega
    · simp only [increment, total, bump, if_neg h, List.foldr_cons] at ih ⊢
      omega

end Counts

/-! ## Metrics -/

/-- What may be rejected. -/
inductive Operation where
  | deposit
  | claim
  deriving DecidableEq, Inhabited

/-- The name of an operation. -/
def Operation.name : Operation → String
  | deposit => "deposit"
  | claim => "claim"

/-- The peers of a node. -/
inductive PeerName where
  | authority
  | rollup (index : UInt32)
  deriving DecidableEq, Inhabited

/-- The text of a peer's name. -/
def PeerName.text : PeerName → String
  | authority => "authority"
  | rollup index => toString index

/-- What a node counts. -/
structure Metrics where
  deposits : Counts LeafKind
  claims : Counts LeafKind
  /-- By operation and error code. -/
  rejections : Counts (Operation × String)
  published : Nat
  imported : Nat
  syncErrors : Counts PeerName
  /-- The gauges. -/
  depositCount : Nat
  knownGlobalExitRoots : Nat
  syncCursor : Nat
  emergency : Bool
  deriving DecidableEq, Inhabited

namespace Metrics

/-- Nothing has been counted. -/
def empty : Metrics :=
  { deposits := .empty
    claims := .empty
    rejections := .empty
    published := 0
    imported := 0
    syncErrors := .empty
    depositCount := 0
    knownGlobalExitRoots := 0
    syncCursor := 0
    emergency := false }

/-- A number that is told as one of 64 bits with a sign. -/
def signed (n : Nat) : Int := (n : Int).bmod (2 ^ 64)

/-- A family with one sample without labels. -/
def single (name help : String) (kind : MetricKind) (value : Int) : MetricFamily :=
  ⟨name, help, kind, [⟨[], value⟩]⟩

/-- The families of samples. -/
def families (m : Metrics) : List MetricFamily :=
  let kindLabel (k : LeafKind) := [("leaf_type", k.name)]
  [⟨"exit_ledger_deposits_total", "Deposits appended to the local exit tree", .counter,
      m.deposits.samples kindLabel⟩,
    ⟨"exit_ledger_claims_total", "Claims applied on this network", .counter,
      m.claims.samples kindLabel⟩,
    ⟨"exit_ledger_rejections_total", "Rejected deposits and claims by error code", .counter,
      m.rejections.samples fun (operation, code) =>
        [("code", code), ("operation", operation.name)]⟩,
    single "exit_ledger_global_exit_roots_published_total"
      "New global exit roots committed by this authority" .counter m.published,
    single "exit_ledger_global_exit_roots_imported_total"
      "Global exit roots imported from the authority" .counter m.imported,
    ⟨"exit_ledger_sync_errors_total", "Failed peer sync attempts", .counter,
      m.syncErrors.samples fun peer => [("peer", peer.text)]⟩,
    single "exit_ledger_deposit_count" "Number of leaves in the local exit tree" .gauge
      (signed m.depositCount),
    single "exit_ledger_known_global_exit_roots"
      "Global exit roots claims may be proven against" .gauge (signed m.knownGlobalExitRoots),
    single "exit_ledger_sync_cursor" "Next authority event cursor this replica will fetch" .gauge
      (signed m.syncCursor),
    single "exit_ledger_emergency_state" "1 while deposits and claims are paused" .gauge
      (if m.emergency then 1 else 0)]

/-- The text of the metrics. -/
def text (m : Metrics) : String := exposition m.families

end Metrics

end ExitBridge
