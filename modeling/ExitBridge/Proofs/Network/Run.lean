/-
  Runs of many ledgers that share one mainnet.

  A federation is a ledger for each of some networks: the mainnet's is the authority, all others are
  replicas. In a run, any ledger is called at any time. Hosts are not followed: each call runs over
  whatever host there is then, so a run says nothing about balances.

  * `Federation.Genesis`: all ledgers have just been created.
  * `Run`: the calls of a run so far and the ledgers afterwards, for calls that keep to a rule.
  * `depositsOf`, `Moment.claim?`: the deposits and claims that succeeded.
-/
import ExitBridge.Ledger.View
import ExitBridge.Proofs.Ledger.Call

namespace ExitBridge

/-! ## Ledgers -/

/-- A ledger of a federation, without its host. -/
structure Member where
  deployment : Deployment
  ledger : Ledger

/-- The ledgers of a federation, by network. -/
abbrev Federation := UInt32 → Option Member

/-- Every ledger has just been created for its network, with the same hash and the same mainnet. -/
def Federation.Genesis (σ : Type) [ExecutionHost σ] (H : NodeHasher) (mainnet : UInt32)
    (f : Federation) : Prop :=
  ∀ n M, f n = some M → ∃ (config : LedgerConfig) (derivation : Derivation) (before after : σ),
    config.networkId = n ∧ config.mainnetNetworkId = mainnet ∧
      Deployment.create H config derivation before = .ok (M.deployment, ⟨M.ledger, after⟩)

/-! ## Calls -/

/-- One call of a run: who was called, over which host, among which ledgers. -/
structure Moment (σ : Type) where
  before : Federation
  network : UInt32
  member : Member
  host : σ
  call : Call

namespace Moment

variable {σ : Type} [ExecutionHost σ]

/-- The answer to the call. -/
def answer (m : Moment σ) : Except LedgerError Answer :=
  match m.call.run m.member.deployment ⟨m.member.ledger, m.host⟩ with
  | .ok answer _ => .ok answer
  | .error e _ => .error e

/-- The ledger that was called, as it is afterwards. -/
def after (m : Moment σ) : Ledger :=
  match m.call.run m.member.deployment ⟨m.member.ledger, m.host⟩ with
  | .ok _ s => s.ledger
  | .error _ s => s.ledger

/-- All ledgers as they are afterwards. -/
def result (m : Moment σ) : Federation := fun n =>
  if n = m.network then some ⟨m.member.deployment, m.after⟩ else m.before n

/-- The deposit that was made. -/
def deposit? (m : Moment σ) : Option BridgeEvent :=
  match m.answer with
  | .ok (.deposit receipt) => m.call.deposit? m.member.deployment ⟨m.member.ledger, m.host⟩ receipt
  | _ => none

/-- The claim that was honoured. -/
def claim? (m : Moment σ) : Option (LeafKind × Claim) :=
  match m.answer with
  | .ok (.claim _) => m.call.claim?
  | _ => none

theorem call_of_claim? {m : Moment σ} {kind : LeafKind} {c : Claim}
    (h : m.claim? = some (kind, c)) : m.call = .claim kind c := by
  rw [claim?] at h
  split at h
  · cases hcall : m.call with
    | claim kind' c' =>
      rw [hcall] at h
      cases h
      rfl
    | _ =>
      rw [hcall] at h
      cases h
  · cases h

end Moment

/-! ## Runs -/

section Run

variable {σ : Type}

/-- The ledgers as they were at each moment, and as they are now. -/
def statesOf (past : List (Moment σ)) (now : Federation) : List Federation :=
  past.map (·.before) ++ [now]

/-- The calls of a run so far, oldest first, and the ledgers now. Which calls may be made can depend
    on all that was before. -/
inductive Run [ExecutionHost σ] (H : NodeHasher) (mainnet : UInt32)
    (rule : List Federation → UInt32 → Call → Prop) : List (Moment σ) → Federation → Prop
  | start {f : Federation} (genesis : f.Genesis σ H mainnet) : Run H mainnet rule [] f
  | step {past : List (Moment σ)} (m : Moment σ) (run : Run H mainnet rule past m.before)
      (called : m.before m.network = some m.member)
      (allowed : rule (statesOf past m.before) m.network m.call) :
      Run H mainnet rule (past ++ [m]) m.result

variable [ExecutionHost σ]

/-- The deposits that a network's ledger has taken, in the order of their leaves. -/
def depositsOf (past : List (Moment σ)) (n : UInt32) : List BridgeEvent :=
  past.filterMap fun m => if m.network = n then m.deposit? else none

/-- The leaves of a network's exit tree. -/
def leavesOf (H : NodeHasher) (past : List (Moment σ)) (n : UInt32) : List Digest :=
  (depositsOf past n).map fun e => (e.leaf H).hash H

/-- The keys under which a network's ledger has honoured claims. -/
def KeysOf (mainnet : UInt32) (past : List (Moment σ)) (n : UInt32) (key : ScopeKey) : Prop :=
  ∃ m ∈ past, m.network = n ∧ ∃ kind c, m.claim? = some (kind, c) ∧
    c.globalIndex.scopeKey mainnet = .ok key

variable {H : NodeHasher} {mainnet : UInt32} {rule : List Federation → UInt32 → Call → Prop}
  {past earlier later : List (Moment σ)} {m : Moment σ} {f g : Federation} {n : UInt32}

/-! ## Longer and shorter runs -/

theorem depositsOf_append (earlier later : List (Moment σ)) (n : UInt32) :
    depositsOf (earlier ++ later) n = depositsOf earlier n ++ depositsOf later n :=
  List.filterMap_append

theorem depositsOf_snoc (past : List (Moment σ)) (m : Moment σ) (n : UInt32) :
    depositsOf (past ++ [m]) n =
      depositsOf past n ++ (if m.network = n then m.deposit? else none).toList := by
  rw [depositsOf_append]
  rfl

theorem leavesOf_append (H : NodeHasher) (earlier later : List (Moment σ)) (n : UInt32) :
    leavesOf H (earlier ++ later) n = leavesOf H earlier n ++ leavesOf H later n := by
  rw [leavesOf, depositsOf_append, List.map_append]
  rfl

theorem leavesOf_mono (H : NodeHasher) (h : earlier <+: past) (n : UInt32) :
    leavesOf H earlier n <+: leavesOf H past n := by
  obtain ⟨later, rfl⟩ := h
  rw [leavesOf_append]
  exact List.prefix_append _ _

omit [ExecutionHost σ] in
theorem mem_statesOf_snoc : g ∈ statesOf (past ++ [m]) f ↔ g ∈ statesOf past m.before ∨ g = f := by
  simp [statesOf, or_assoc]

omit [ExecutionHost σ] in
theorem mem_statesOf_self (past : List (Moment σ)) (f : Federation) : f ∈ statesOf past f := by
  simp [statesOf]

omit [ExecutionHost σ] in
theorem mem_statesOf_of_cut (hg : g ∈ statesOf earlier m.before) :
    g ∈ statesOf (earlier ++ m :: later) f := by
  simp only [statesOf, List.map_append, List.map_cons, List.mem_append, List.mem_cons] at hg ⊢
  grind

/-- Every state of a run ends a run of its own. -/
theorem Run.of_mem_statesOf (h : Run H mainnet rule past f) (hg : g ∈ statesOf past f) :
    ∃ earlier, earlier <+: past ∧ Run H mainnet rule earlier g ∧
      ∀ s ∈ statesOf earlier g, s ∈ statesOf past f := by
  induction h with
  | start genesis =>
    obtain rfl : g = _ := by simpa [statesOf] using hg
    exact ⟨[], List.nil_prefix, .start genesis, fun s hs => hs⟩
  | step m run called allowed ih =>
    rcases mem_statesOf_snoc.1 hg with old | rfl
    · obtain ⟨earlier, hprefix, hrun, hstates⟩ := ih old
      exact ⟨earlier, hprefix.trans (List.prefix_append _ _), hrun,
        fun s hs => mem_statesOf_snoc.2 (.inl (hstates s hs))⟩
    · exact ⟨_, List.prefix_rfl, .step m run called allowed, fun s hs => hs⟩

/-- A run can be cut at any of its calls. -/
theorem Run.cut (h : Run H mainnet rule past f) (split : past = earlier ++ m :: later) :
    Run H mainnet rule earlier m.before ∧ m.before m.network = some m.member ∧
      rule (statesOf earlier m.before) m.network m.call := by
  induction h generalizing later with
  | start genesis => simp at split
  | step last run called allowed ih =>
    rename_i before
    rcases List.eq_nil_or_concat later with rfl | ⟨later, final, rfl⟩
    · obtain ⟨rfl, hlast⟩ := List.append_inj' split rfl
      obtain rfl := List.singleton_inj.1 hlast
      exact ⟨run, called, allowed⟩
    · have split' : before ++ [last] = (earlier ++ m :: later) ++ [final] := by simpa using split
      exact ih (List.append_inj' split' rfl).1

end Run

end ExitBridge
