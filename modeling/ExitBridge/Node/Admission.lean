/-
  What a request must bring before it is carried out.

  The body is read first: it must be declared as JSON, not be too long, be JSON, and have the right
  shape. When a text is at fault in both ways, the fault that comes first in it counts. Then the
  token is checked.

  * `readBody`: the record in a body, or the refusal of the request.
  * `tokenMatches`: are two byte strings equal? Every byte is compared, wherever they differ.
  * `authorize`: requires the admin token.
-/
import ExitBridge.Node.ApiError
import ExitBridge.Wire.Node
import ExitBridge.Wire.Stream

namespace ExitBridge

/-! ## Bodies -/

instance : Streamed MintRequest := ⟨.recordOf MintRequest [.word 20, .word 20, .valueOf Amount]⟩

instance : Streamed ClaimRequest :=
  let path : Shape := .list treeDepth (.word 32)
  ⟨.recordOf ClaimRequest [path, path, .valueOf Amount, .word 32, .word 32, .valueOf UInt32,
    .word 20, .valueOf UInt32, .word 20, .valueOf Amount, .bytes]⟩

/-- Of a deposit request only the sender is looked at before the end. -/
def depositRequestShape : Shape := .object [("sender", .word 20)] (.any 1)

instance : Streamed BridgeAssetRequest := ⟨depositRequestShape⟩

instance : Streamed BridgeMessageRequest := ⟨depositRequestShape⟩

/-- The number of bytes that a body may have. -/
def maxBodySize : Nat := 2 * 1024 * 1024

/-- The status by which a text is refused. -/
def Fault.status : Fault → Status
  | malformed => .badRequest
  | mismatch => .unprocessableContent

/-- The record in a body, or the refusal of the request. -/
def readBody (α : Type) [Wire α] [Streamed α] (r : Request) : Except Response α :=
  if !r.declaresJson then .error (.refusal .unsupportedMediaType)
  else if maxBodySize < r.body.utf8ByteSize then .error (.refusal .contentTooLarge)
  else (readText α r.body).mapError fun fault => .refusal fault.status

/-! ## Authorization -/

/-- A header value is read as text if it holds these characters only. -/
def isPrintable (c : Char) : Bool := (0x20 ≤ c.toNat && c.toNat < 0x7F) || c == '\t'

/-- The token in an authorization header. -/
def bearerToken? (value : String) : Option (List Char) :=
  let cs := value.toList
  let scheme := "Bearer ".toList
  if cs.all isPrintable && scheme.isPrefixOf cs then some (cs.drop scheme.length) else none

/-- Are two byte strings equal? -/
def tokenMatches (provided expected : Bytes) : Bool :=
  provided.length == expected.length &&
    (List.zipWith (· ^^^ ·) provided expected).foldl (· ||| ·) 0 == 0

/-- Requires the admin token. -/
def authorize (adminToken : Option String) (authorization : Option String) :
    Except ApiError Unit :=
  match adminToken with
  | none => .error (.unauthorized "admin API disabled: ADMIN_TOKEN not set")
  | some expected =>
    match authorization.bind bearerToken? with
    | none => .error (.unauthorized "missing or invalid bearer token")
    | some provided =>
      if tokenMatches (String.ofList provided).toUTF8.toList expected.toUTF8.toList then .ok ()
      else .error (.unauthorized "missing or invalid bearer token")

end ExitBridge
