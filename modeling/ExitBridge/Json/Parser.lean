/-
  JSON values from text.

  The containers that are open form a stack of frames, and every token moves the reader from one
  expectation to the next, so a text is read in one pass.

  * `Json.readValue`: the value at the start of a text; `Json.skipValue`: the text behind it.
  * `Json.parse?`: the value of a text that holds nothing else. At most 127 containers may be open
    at once.
-/
import ExitBridge.Json.Token

namespace ExitBridge.Json

/-- A container that is still open; its parts are kept last first. -/
inductive Frame where
  | array (items : List Json)
  | object (members : List (String × Json))
  | member (members : List (String × Json)) (name : String)

/-- What may come next. -/
inductive Expectation where
  /-- A value. -/
  | value
  /-- A value, or the end of an array that has just been opened. -/
  | firstItem
  /-- A member's name, or the end of an object that has just been opened. -/
  | firstName
  /-- A member's name. -/
  | name
  /-- The colon after a member's name. -/
  | colon
  /-- A comma, or the end of the innermost container. -/
  | more
  /-- Nothing: the value is complete. -/
  | nothing (result : Json)

/-- The number of containers that may be open at once in a text. -/
def maxDepth : Nat := 127

/-- Gives a complete value to the innermost open container. -/
def give (value : Json) : List Frame → Option (Expectation × List Frame)
  | [] => some (.nothing value, [])
  | .array items :: stack => some (.more, .array (value :: items) :: stack)
  | .member members name :: stack => some (.more, .object ((name, value) :: members) :: stack)
  | .object _ :: _ => none

/-- Opens a container, unless as many are open as there may be. -/
def enter (limit : Option Nat) (frame : Frame) (next : Expectation) (stack : List Frame) :
    Option (Expectation × List Frame) :=
  if limit.all (stack.length < ·) then some (next, frame :: stack) else none

/-- Reads a value, or the token that starts one. -/
def stepValue (limit : Option Nat) (stack : List Frame) :
    Token → Option (Expectation × List Frame)
  | .openArray => enter limit (.array []) .firstItem stack
  | .openObject => enter limit (.object []) .firstName stack
  | .scalar value => give value stack
  | _ => none

/-- Reads the name of a member. -/
def stepName : List Frame → Token → Option (Expectation × List Frame)
  | .object members :: stack, .scalar (.string name) => some (.colon, .member members name :: stack)
  | _, _ => none

/-- Closes the innermost container. -/
def stepClose : List Frame → Token → Option (Expectation × List Frame)
  | .array items :: stack, .closeArray => give (.array items.reverse) stack
  | .object members :: stack, .closeObject => give (.object members.reverse) stack
  | _, _ => none

/-- One token. -/
def step (limit : Option Nat) (stack : List Frame) (token : Token) :
    Expectation → Option (Expectation × List Frame)
  | .value => stepValue limit stack token
  | .firstItem =>
    match token with
    | .closeArray => stepClose stack token
    | _ => stepValue limit stack token
  | .firstName =>
    match token with
    | .closeObject => stepClose stack token
    | _ => stepName stack token
  | .name => stepName stack token
  | .colon =>
    match token with
    | .colon => some (.value, stack)
    | _ => none
  | .more =>
    match token, stack with
    | .comma, .array _ :: _ => some (.value, stack)
    | .comma, .object _ :: _ => some (.name, stack)
    | _, _ => stepClose stack token
  | .nothing _ => none

/-! ## Reading -/

/-- The value that the tokens of a text lead to, and the text behind it. -/
def run (purpose : Purpose) (limit : Option Nat) (text : List Char) (expectation : Expectation)
    (stack : List Frame) : Option (Json × List Char) :=
  match h : Token.next purpose text with
  | .error _ => none
  | .ok (token, rest) =>
    match step limit stack token expectation with
    | none => none
    | some (.nothing value, _) => some (value, rest)
    | some (expectation, stack) =>
      have := Token.length_of_next h
      run purpose limit rest expectation stack
termination_by text.length

/-- The value at the start of a text, in which up to `limit` containers may be open at once, and
    the text behind it. -/
def readValue (limit : Nat) (text : List Char) : Option (Json × List Char) :=
  run .keep (some limit) text .value []

/-- The text behind a value, however deep it is. -/
def skipValue (text : List Char) : Option (List Char) :=
  (run .skip none text .value []).map (·.2)

/-- The value of a text that holds nothing else. -/
def parse? (text : String) : Option Json := do
  let (value, rest) ← readValue maxDepth text.toList
  if rest.all isSpace then some value else none

end ExitBridge.Json
