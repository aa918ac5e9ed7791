/-
  How nodes follow their peers.

  A replica reads the authority's journal page by page and learns the global exit roots in it. An
  authority asks every rollup for the exit root it has published last, and folds it in if it is not
  the one it has folded in before. A peer is another node, or none if it cannot be reached.

  * `Node.syncEvents`: reads the authority's journal to its end.
  * `PeerSync.syncRollup`: asks one rollup. `PeerSync.pollOnce`: one round over all peers.
  * `Node.publishPending`: one round of the publication of new deposits.
-/
import ExitBridge.Node.Basic
import Std.Data.HashMap

namespace ExitBridge

/-- Why a node could not follow a peer. -/
inductive SyncError where
  | authorityUnreachable
  | authorityRefused (cause : ApiError)
  | ingest (cause : LedgerError)
  | rollupUnreachable
  | noNetwork (rollupIndex : UInt32)
  | networkMismatch (rollupIndex reported expected : UInt32)
  | rollupUpdate (cause : LedgerError)
  deriving DecidableEq, Inhabited

/-- The wording of an error. -/
def SyncError.message : SyncError → String
  | authorityUnreachable => "Failed to reach authority"
  | authorityRefused cause =>
    s!"Authority returned {cause.status.code} {cause.status.reason}: {cause.message} ({cause.code})"
  | ingest cause => s!"Failed to ingest events: {cause.message}"
  | rollupUnreachable => "Failed to reach rollup peer"
  | noNetwork rollupIndex => s!"Rollup index {rollupIndex} has no network id"
  | networkMismatch rollupIndex reported expected =>
    s!"Rollup peer at index {rollupIndex} reports network {reported}, expected {expected}"
  | rollupUpdate cause => s!"Failed to update rollup exit root: {cause.message}"

/-! ## Following the authority -/

namespace Node

/-- The number of events that a replica asks for at once. -/
def syncPageSize : Nat := 500

theorem syncCursor_of_ingest {n after : Node} {batch : EventBatch} {imported : Nat}
    (h : n.ingest batch = (.ok imported, after)) : after.syncCursor = batch.nextCursor := by
  unfold ingest at h
  split at h
  · simp only [Prod.mk.injEq] at h
    rw [← h.2]
    rfl
  · simp at h

theorem nextCursor_of_eventsPage {n : Node} {query : EventsQuery} {batch : EventBatch}
    (h : n.eventsPage query = .ok batch) :
    batch.nextCursor = query.start + batch.entries.length ∧
      batch.nextCursor ≤ n.ledger.journal.head := by
  unfold eventsPage Except.mapError at h
  split at h
  · simp at h
  · rename_i page hp
    simp only [Except.ok.injEq] at h
    exact h ▸ Journal.nextCursor_of_since hp

/-- Reads the authority's journal from the cursor on until a page is not full: how many global exit
    roots were new? `known` is the number of those learned before. -/
def drain (authority : Node) (n : Node) (known : Nat) : Except SyncError Nat × Node :=
  match hp : authority.eventsPage ⟨n.syncCursor, some syncPageSize⟩ with
  | .error e => (.error (.authorityRefused e), n)
  | .ok batch =>
    match hi : n.ingest batch with
    | (.error e, after) => (.error (.ingest e), after)
    | (.ok imported, after) =>
      if hfull : batch.entries.length < syncPageSize then (.ok (known + imported), after)
      else
        have : authority.ledger.journal.head - after.syncCursor
            < authority.ledger.journal.head - n.syncCursor := by
          have hc := syncCursor_of_ingest hi
          have hn := nextCursor_of_eventsPage hp
          simp only [syncPageSize] at hfull hn
          omega
        drain authority after (known + imported)
termination_by authority.ledger.journal.head - n.syncCursor

/-- Follows the authority: how many global exit roots were new? -/
def syncEvents (authority : Option Node) (n : Node) : Except SyncError Nat × Node :=
  match authority with
  | none => (.error .authorityUnreachable, n)
  | some authority => drain authority n 0

/-- One round of the publication of new deposits; nothing is published when the interval is zero. -/
def publishPending (n : Node) (now : UInt64) : Node :=
  if n.settings.rootUpdateIntervalMs = 0 then n else (n.updateGlobalExitRoot now false).2

/-- Counts a failed synchronization. -/
def countSyncError (n : Node) (peer : PeerName) : Node :=
  n.count fun m => { m with syncErrors := m.syncErrors.increment peer }

end Node

/-! ## Following rollups -/

/-- The exit root of each rollup that was folded in last. -/
structure PeerSync where
  folded : Std.HashMap UInt32 Digest
  deriving Inhabited

namespace PeerSync

/-- Nothing has been folded in. -/
def empty : PeerSync := ⟨∅⟩

/-- The exit root that a rollup's node reports, if it is that of the rollup. -/
def reportedRoot (index : UInt32) (peer : Option Node) : Except SyncError (Option Digest) :=
  match peer with
  | none => .error .rollupUnreachable
  | some peer =>
    let report := peer.rootResponse
    match rollupNetworkId index with
    | .error _ => .error (.noNetwork index)
    | .ok expected =>
      if report.networkId ≠ expected then
        .error (.networkMismatch index report.networkId expected)
      else .ok report.lastLocalExitRoot

/-- Is there nothing to fold in: the same root as before, or none published yet? -/
def isCurrent (s : PeerSync) (index : UInt32) (root : Digest) : Bool :=
  s.folded[index]? == some root || (root == Digest.zero && !s.folded.contains index)

/-- Folds in a rollup's exit root: the global exit root, if one was published for it. -/
def syncRollup (s : PeerSync) (n : Node) (now : UInt64) (index : UInt32) (peer : Option Node) :
    Except SyncError (Option Digest) × PeerSync × Node :=
  match reportedRoot index peer with
  | .error e => (.error e, s, n)
  | .ok none => (.ok none, s, n)
  | .ok (some root) =>
    if s.isCurrent index root then (.ok none, s, n)
    else
      match n.updateRollupExitRoot now index root with
      | (.error e, n) => (.error (.rollupUpdate e), s, n)
      | (.ok published, n) => (.ok (some published), ⟨s.folded.insert index root⟩, n)

/-- Follows the authority, if one is configured, and notes how it went. -/
def pollAuthority (n : Node) (authority : Option Node) : Node :=
  if n.settings.peerUrl.isNone then n
  else
    match n.syncEvents authority with
    | (.ok _, n) => n.setSyncStatus true
    | (.error _, n) => (n.setSyncStatus false).countSyncError .authority

/-- Asks one of the configured rollups, and counts a failure. -/
def pollRollup (now : UInt64) (peers : String → Option Node) (state : PeerSync × Node)
    (peer : RollupPeer) : PeerSync × Node :=
  match state.1.syncRollup state.2 now peer.rollupIndex (peers peer.url) with
  | (.ok _, s, n) => (s, n)
  | (.error _, s, n) => (s, n.countSyncError (.rollup peer.rollupIndex))

/-- One round over all peers; `peers` finds the node at a URL. -/
def pollOnce (s : PeerSync) (n : Node) (now : UInt64) (peers : String → Option Node) :
    PeerSync × Node :=
  let n := pollAuthority n (n.settings.peerUrl.bind peers)
  n.settings.rollupPeers.foldl (pollRollup now peers) (s, n)

end PeerSync

end ExitBridge
