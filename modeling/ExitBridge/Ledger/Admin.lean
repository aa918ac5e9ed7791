/-
  The operations that are not deposits or claims.

  * `activateEmergencyState`, `deactivateEmergencyState`: stop and resume deposits and claims.
  * `updateGlobalExitRoot`, `updateRollupExitRoot`: publish exit roots.
  * `importGlobalExitRoot`, `ingestPeerEvents`: learn the authority's global exit roots.
-/
import ExitBridge.Ledger.Basic

namespace ExitBridge

open LedgerM

variable {σ : Type}

/-! ## Emergency state -/

/-- Stops deposits and claims. -/
def activateEmergencyState : LedgerM σ Unit := do
  let l ← ledger
  require (!l.emergency) .onlyNotEmergencyState
  change fun l => { l with emergency := true }
  emit .emergencyStateActivated

/-- Resumes deposits and claims. -/
def deactivateEmergencyState : LedgerM σ Unit := do
  let l ← ledger
  require l.emergency .onlyEmergencyState
  change fun l => { l with emergency := false }
  emit .emergencyStateDeactivated

/-! ## Exit roots -/

/-- Publishes the root of the exit tree; on the authority, the result is the global exit root. -/
def updateGlobalExitRoot (D : Deployment) (block : BlockContext) : LedgerM σ (Option Digest) :=
  publishLocalRoot D block

/-- Records a rollup's exit root and publishes the global exit root, on the authority. -/
def updateRollupExitRoot (D : Deployment) (index : UInt32) (localExitRoot : Digest)
    (block : BlockContext) : LedgerM σ Digest := do
  let l ← ledger
  match l.roots with
  | .replica _ => throw .onlyAggregatorAuthority
  | .authority a =>
    let (outcome, a) ← ofResult (a.updateRollup D.hasher index localExitRoot block)
    change fun l => { l with roots := .authority a }
    announceOutcome outcome block
    return outcome.globalExitRoot

/-- Learns a global exit root, on a replica: was it new? -/
def importGlobalExitRoot (D : Deployment) (roots : GlobalExitRoot) (timestamp : UInt64) :
    LedgerM σ Bool := do
  let l ← ledger
  match l.roots with
  | .authority _ => throw .onlyReplica
  | .replica r =>
    let (isNew, r) := r.learn (roots.hash D.hasher) timestamp
    change fun l => { l with roots := .replica r }
    return isNew

/-- Learns the global exit roots that a list of events tells of: how many were new? -/
def ingestEvents (D : Deployment) : List Event → LedgerM σ Nat
  | [] => pure 0
  | .updateL1InfoTree e :: rest => do
    let isNew ← importGlobalExitRoot D ⟨e.mainnetExitRoot, e.rollupExitRoot⟩ e.timestamp
    let more ← ingestEvents D rest
    return (if isNew then 1 else 0) + more
  | _ :: rest => ingestEvents D rest

/-- Learns the global exit roots of a page of the authority's journal: how many were new? -/
def ingestPeerEvents (D : Deployment) (batch : EventBatch) : LedgerM σ Nat :=
  ingestEvents D (batch.entries.map (·.event))

end ExitBridge
