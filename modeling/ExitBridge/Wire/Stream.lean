/-
  Values read while their text goes by.

  Text from outside may be at fault in two ways: it may break the rules of JSON, or hold JSON of
  another shape. The fault that comes first counts, so the shape is checked while the text is
  read, as soon as a part of it is complete: a bracket where a scalar belongs is a fault at once, a
  scalar of the wrong kind is one at its end, and a missing member is one at the end of its object.

  * `Shape`: reads a value from the start of a text, or tells the first fault.
  * `Shape.scalar`, `Shape.word`, `Shape.bytes`, `Shape.list`, `Shape.object`, `Shape.record`: the
    shapes there are.
  * `Streamed`: a type whose values are read in this way; `readText`: the value of a text.
-/
import ExitBridge.Json.Parser
import ExitBridge.Wire.Basic

namespace ExitBridge

open Json

/-- Why a text was refused. -/
inductive Fault where
  /-- It breaks the rules of JSON. -/
  | malformed
  /-- It holds JSON of another shape. -/
  | mismatch
  deriving DecidableEq, Inhabited

/-- Reads a value from the start of a text, and gives it with the text behind it. -/
abbrev Shape := List Char → Except Fault (Json × List Char)

namespace Shape

/-! ## Scalars -/

/-- What a token means where a shape does not start with it. -/
def refuse : Token → Fault
  | .scalar _ => .mismatch
  | .openArray => .mismatch
  | .openObject => .mismatch
  | _ => .malformed

/-- The token at the start of a text. -/
def token (text : List Char) : Except Fault (Token × List Char) :=
  match Token.next .keep text with
  | .ok result => .ok result
  | .error _ => .error .malformed

/-- A scalar that is admitted. -/
def scalar (admits : Json → Bool) : Shape := fun text =>
  match token text with
  | .ok (.scalar j, rest) => if admits j then .ok (j, rest) else .error .mismatch
  | .ok (t, _) => .error (refuse t)
  | .error fault => .error fault

/-- A scalar that stands for a value of a type. -/
def valueOf (α : Type) [Wire α] : Shape := scalar fun j => (Wire.read? j : Option α).isSome

/-! ## Lists -/

/-- Where the next item of a list starts, if there is one. -/
def nextItem (first : Bool) (text : List Char) : Except Fault (Option (List Char)) :=
  match skipBlanks text with
  | ']' :: _ => .ok none
  | ',' :: rest =>
    match first, skipBlanks rest with
    | true, _ => .error .malformed
    | false, ']' :: _ => .error .malformed
    | false, rest => .ok (some rest)
  | rest => if first then .ok (some rest) else .error .malformed

/-- The text behind the end of a list. -/
def closeList (text : List Char) : Except Fault (List Char) :=
  match skipBlanks text with
  | ']' :: rest => .ok rest
  | _ => .error .malformed

/-- Items of the given shapes; a list may end before it has all of them. -/
def items : List Shape → (first : Bool) → List Char → Except Fault (List Json × List Char)
  | [], _, text => .ok ([], text)
  | shape :: shapes, first, text => do
    match ← nextItem first text with
    | none => return ([], text)
    | some text =>
      let (j, text) ← shape text
      let (js, text) ← items shapes false text
      return (j :: js, text)

/-- As many items as there are, put behind those already read; `size` bounds their number. -/
def allItems (shape : Shape) (size : Nat) (done : List Json) (text : List Char) :
    Except Fault (List Json × List Char) :=
  match size with
  | 0 => .error .malformed
  | size + 1 => do
    match ← nextItem done.isEmpty text with
    | none => return (done.reverse, text)
    | some text =>
      let (j, text) ← shape text
      allItems shape size (j :: done) text

/-- A list of exactly `n` items. -/
def list (n : Nat) (shape : Shape) : Shape := fun text => do
  match ← token text with
  | (.openArray, text) =>
    let (js, text) ← items (List.replicate n shape) true text
    if js.length < n then .error .mismatch else return (.array js, ← closeList text)
  | (t, _) => .error (refuse t)

/-! ## Bytes -/

/-- The text behind the value that may follow the bytes of a word in a list, if it is no byte.
    A part of it will do, and a bracket is left where it is, so the list goes on to its end from
    wherever the value turned out to be none. -/
def passNonByte (text : List Char) : Except Fault (List Char) :=
  match skipBlanks text with
  | ',' :: text =>
    match skipBlanks text with
    | ']' :: rest => .ok (']' :: rest)
    | text =>
      match Token.next .keep text with
      | .ok (.scalar j, rest) =>
        if (Wire.read? j : Option UInt8).isSome then .error .mismatch else .ok rest
      | .ok _ => .ok text
      | .error rest => .ok rest
  | text => .ok text

/-- A word of `n` bytes: a text, or the list of its bytes. -/
def word (n : Nat) : Shape := fun text => do
  match ← token text with
  | (.openArray, text) =>
    let (js, text) ← items (List.replicate n (valueOf UInt8)) true text
    if js.length < n then .error .mismatch
    else return (.array js, ← closeList (← passNonByte text))
  | (.scalar j, text) =>
    if (Wire.read? j : Option (FixedBytes n)).isSome then return (j, text) else .error .mismatch
  | (t, _) => .error (refuse t)

/-- A byte string: a text, or the list of its bytes. -/
def bytes : Shape := fun text => do
  match ← token text with
  | (.openArray, text) =>
    let (js, text) ← allItems (valueOf UInt8) (text.length + 1) [] text
    return (.array js, ← closeList text)
  | (.scalar j, text) =>
    if (Wire.read? j : Option Bytes).isSome then return (j, text) else .error .mismatch
  | (t, _) => .error (refuse t)

/-! ## Objects -/

/-- The name of the next member of an object, if there is one, and the text behind it. -/
def nextName (first : Bool) (text : List Char) : Except Fault (Option String × List Char) := do
  match first, ← token text with
  | _, (.closeObject, text) => return (none, text)
  | true, (.scalar (.string name), text) => return (some name, text)
  | false, (.comma, text) =>
    match ← token text with
    | (.scalar (.string name), text) => return (some name, text)
    | _ => .error .malformed
  | _, _ => .error .malformed

/-- The text behind the colon after a name. -/
def passColon (text : List Char) : Except Fault (List Char) := do
  match ← token text with
  | (.colon, text) => return text
  | _ => .error .malformed

/-- The members of an object behind those already read; `size` bounds their number. A name that is
    known must not come twice. -/
def membersFrom (known : List (String × Shape)) (others : Shape) (size : Nat) (done : Members)
    (text : List Char) : Except Fault (Members × List Char) :=
  match size with
  | 0 => .error .malformed
  | size + 1 => do
    match ← nextName done.isEmpty text with
    | (none, text) => return (done.reverse, text)
    | (some name, text) =>
      let shape ← match known.lookup name with
        | none => pure others
        | some shape => if done.any (·.1 == name) then .error .mismatch else pure shape
      let (j, text) ← shape (← passColon text)
      membersFrom known others size ((name, j) :: done) text

/-- The rest of an object behind its opening bracket. -/
def objectRest (known : List (String × Shape)) (others : Shape) (text : List Char) :
    Except Fault (Json × List Char) := do
  let (ms, text) ← membersFrom known others (text.length + 1) [] text
  return (.object ms, text)

/-- An object; the shapes of some of its members are known. -/
def object (known : List (String × Shape)) (others : Shape) : Shape := fun text => do
  match ← token text with
  | (.openObject, text) => objectRest known others text
  | (t, _) => .error (refuse t)

/-- Any value, kept as it is; a number of containers are open around it. -/
def any (around : Nat) : Shape := fun text =>
  match readValue (maxDepth - around) text with
  | some result => .ok result
  | none => .error .malformed

/-- A value that is not looked at. -/
def skipped : Shape := fun text =>
  match skipValue text with
  | some rest => .ok (.null, rest)
  | none => .error .malformed

/-- A record as an object of its fields, with other members between them, or as the list of their
    values. -/
def record (fields : List (String × Shape)) : Shape := fun text => do
  match ← token text with
  | (.openObject, text) => objectRest fields skipped text
  | (.openArray, text) =>
    let (js, text) ← items (fields.map (·.2)) true text
    return (.array js, ← closeList text)
  | (t, _) => .error (refuse t)

/-- A record of a type, by the shapes of its fields. -/
def recordOf (α : Type) [WireRecord α] (fields : List Shape) : Shape :=
  record (((WireRecord.slots α).map (·.1)).zip fields)

end Shape

/-! ## Values -/

/-- A type whose values are read while their text goes by. -/
class Streamed (α : Type) [Wire α] where
  shape : Shape

/-- The value of a text that holds nothing else. -/
def readText (α : Type) [Wire α] [Streamed α] (text : String) : Except Fault α := do
  let (j, rest) ← Streamed.shape α text.toList
  match Wire.read? j with
  | none => .error .mismatch
  | some a => if rest.all isSpace then return a else .error .malformed

end ExitBridge
