/-
  Requests and responses.

  * `Request`: method, target, authorization and body; `Request.isSendable`: may they be sent?
  * `Response`: a status, and a body that is empty, text, or JSON.
  * `Status.code`, `Status.reason`: the number and the phrase of a status.
-/
import ExitBridge.Json.Value

namespace ExitBridge

/-- What a request does to its target. -/
inductive Method where
  | get
  /-- As `get`, without the body of the response. -/
  | head
  | post
  | other (name : String)
  deriving DecidableEq, Inhabited

/-- The method of a name. -/
def Method.ofName : String → Method
  | "GET" => get
  | "HEAD" => head
  | "POST" => post
  | name => other name

/-- What a client sends. -/
structure Request where
  method : Method
  target : String
  /-- The value of the authorization header, if there is one. -/
  authorization : Option String
  /-- Does the request say that its body is JSON? -/
  declaresJson : Bool
  body : String
  deriving DecidableEq, Inhabited

/-- The marks that may stand in the name of a method, beside letters and digits. -/
def methodMarks : List Char := "!#$%&'*+-.^_|~\u0060".toList

/-- Can a request be sent with a method? -/
def Method.isSendable : Method → Bool
  | .other name => !name.isEmpty &&
    name.toList.all fun c => c.isAlpha || c.isDigit || methodMarks.contains c
  | _ => true

/-- Can a text be sent as the value of a header? -/
def isHeaderText (s : String) : Bool :=
  s.toList.all fun c => (0x20 ≤ c.toNat && c.toNat != 0x7F) || c == '\t'

/-- Can a request be sent, as far as its method and its header go? -/
def Request.isSendable (r : Request) : Bool :=
  r.method.isSendable && r.authorization.all isHeaderText

/-- How a request turned out. -/
inductive Status where
  | ok
  | badRequest
  | unauthorized
  | forbidden
  | notFound
  | methodNotAllowed
  | conflict
  | gone
  | contentTooLarge
  | unsupportedMediaType
  | unprocessableContent
  | serviceUnavailable
  deriving DecidableEq, Inhabited

namespace Status

/-- The number of a status. -/
def code : Status → Nat
  | ok => 200
  | badRequest => 400
  | unauthorized => 401
  | forbidden => 403
  | notFound => 404
  | methodNotAllowed => 405
  | conflict => 409
  | gone => 410
  | contentTooLarge => 413
  | unsupportedMediaType => 415
  | unprocessableContent => 422
  | serviceUnavailable => 503

/-- The phrase of a status. -/
def reason : Status → String
  | ok => "OK"
  | badRequest => "Bad Request"
  | unauthorized => "Unauthorized"
  | forbidden => "Forbidden"
  | notFound => "Not Found"
  | methodNotAllowed => "Method Not Allowed"
  | conflict => "Conflict"
  | gone => "Gone"
  | contentTooLarge => "Payload Too Large"
  | unsupportedMediaType => "Unsupported Media Type"
  | unprocessableContent => "Unprocessable Entity"
  | serviceUnavailable => "Service Unavailable"

end Status

/-- What a response carries. -/
inductive Body where
  | empty
  | text (s : String)
  | json (value : Json)
  deriving Inhabited

/-- What a client gets back. -/
structure Response where
  status : Status
  body : Body
  deriving Inhabited

namespace Response

/-- A response without a body, by which a request is refused before it is looked into. -/
def refusal (status : Status) : Response := ⟨status, .empty⟩

/-- The response to the same request with the method `head`. -/
def withoutBody (r : Response) : Response := { r with body := .empty }

end Response

end ExitBridge
