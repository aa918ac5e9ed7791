/-
  Why a node refuses a request that it understands.

  * `ApiError`: a ledger's error, an error of the journal, or one of the node itself.
  * `ApiError.status`, `ApiError.code`, `ApiError.message`: what the response tells of it.
-/
import ExitBridge.Error
import ExitBridge.Http.Message
import ExitBridge.Journal.Basic

namespace ExitBridge

/-- The status for an error of the ledger. -/
def LedgerError.status : LedgerError → Status
  | alreadyClaimed => .conflict
  | wrappedTokenAlreadyRegistered _ => .conflict
  | leafIndexOutOfRange .. => .notFound
  | proofHistoryUnavailable => .gone
  | onlyAggregatorAuthority => .forbidden
  | onlyReplica => .forbidden
  | onlyNotEmergencyState => .serviceUnavailable
  | onlyEmergencyState => .serviceUnavailable
  | merkleTreeFull => .serviceUnavailable
  | messageFailed _ => .unprocessableContent
  | transferFailed _ => .unprocessableContent
  | _ => .badRequest

/-- Why a node refuses a request. -/
inductive ApiError where
  | ledger (cause : LedgerError)
  | source (cause : SourceError)
  | badRequest (reason : String)
  | notFound (reason : String)
  | unauthorized (reason : String)
  deriving DecidableEq, Inhabited

namespace ApiError

/-- The status for an error. -/
def status : ApiError → Status
  | ledger cause => cause.status
  | source (.cursorAhead ..) => .badRequest
  | source (.cursorPruned ..) => .gone
  | source _ => .serviceUnavailable
  | badRequest _ => .badRequest
  | notFound _ => .notFound
  | unauthorized _ => .unauthorized

/-- The stable name of an error. -/
def code : ApiError → String
  | ledger cause => cause.code
  | source (.cursorAhead ..) => "CursorAhead"
  | source (.cursorPruned ..) => "CursorPruned"
  | source _ => "SourceUnavailable"
  | badRequest _ => "BadRequest"
  | notFound _ => "NotFound"
  | unauthorized _ => "Unauthorized"

/-- The wording of an error. -/
def message : ApiError → String
  | ledger cause => cause.message
  | source cause => cause.message
  | badRequest reason => reason
  | notFound reason => reason
  | unauthorized reason => reason

end ApiError

end ExitBridge
