/-
  The wire forms of requests and responses, for a node that is driven by lines of text.

  * A request is an object of its fields; only the method and the target are required.
  * `Response.toJson`: the status and the body, which is null, a text, or any JSON value.
-/
import ExitBridge.Http.Message
import ExitBridge.Wire.Basic

namespace ExitBridge

open Wire Members

instance : Wire Method where
  write
    | .get => .string "GET"
    | .head => .string "HEAD"
    | .post => .string "POST"
    | .other name => .string name
  read?
    | .string name => some (.ofName name)
    | _ => none

instance : WireRecord Request where
  slots := [("method", false), ("target", false), ("authorization", true),
    ("declares_json", true), ("body", true)]
  members r := [("method", write r.method), ("target", write r.target),
    ("authorization", write r.authorization), ("declares_json", write r.declaresJson),
    ("body", write r.body)]
  ofMembers? ms := do
    return ⟨← required ms "method", ← required ms "target", ← optional ms "authorization",
      ← withDefault ms "declares_json" true, ← withDefault ms "body" ""⟩

/-- The status and the body. -/
def Response.toJson (r : Response) : Json :=
  let body := match r.body with
    | .empty => .null
    | .text s => .string s
    | .json value => value
  .object [("status", write r.status.code), ("body", body)]

end ExitBridge
