/-
  What a request asks for: a path in segments, and a query.

  A byte that cannot stand in a target as it is comes as a percent sign and two digits. A percent
  sign without two digits behind it stands for itself. In queries a plus sign is a space.

  * `Target.parse? text`: path and query of a target; scheme, authority and fragment are dropped.
  * `Segment.text?`, `Segment.integer?`: what a segment of the path says.
  * `Query.integer?`: the number under a name. A name that is given twice is an error.
-/
import ExitBridge.Bytes.Hex
import ExitBridge.Http.Authority
import ExitBridge.Text.Integer
import ExitBridge.Text.Split

namespace ExitBridge

/-! ## Percent signs -/

/-- The bytes behind escapes. -/
def percentDecode : Bytes → Bytes
  | 0x25 :: c :: d :: rest =>
    match Hex.valueOfByte? c, Hex.valueOfByte? d with
    | some high, some low => UInt8.ofNat (high * 16 + low) :: percentDecode rest
    | _, _ => 0x25 :: percentDecode (c :: d :: rest)
  | b :: rest => b :: percentDecode rest
  | [] => []
termination_by bs => bs.length

/-- The bytes of a part of a target. -/
def utf8Bytes (cs : List Char) : Bytes := (String.ofList cs).toUTF8.toList

/-- The text that bytes encode. -/
def utf8Text? (bs : Bytes) : Option String := String.fromUTF8? ⟨bs.toArray⟩

/-! ## Targets -/

/-- A part of a path, as it stands in the target. -/
abbrev Segment := String

/-- Names and values, in the order of the target. -/
abbrev Query := List (String × String)

/-- What a request asks for. -/
structure Target where
  path : List Segment
  query : Query
  deriving DecidableEq, Inhabited

namespace Query

/-- A name or a value of a query. One that is no text reads as a replacement character, which is
    neither a number nor a name. -/
def decode (cs : List Char) : String :=
  let bytes := percentDecode (utf8Bytes (cs.map fun c => if c = '+' then ' ' else c))
  (utf8Text? bytes).getD "\ufffd"

/-- A name and its value, which is empty if it is not given. -/
def parsePair (cs : List Char) : String × String :=
  match Text.splitOnce? ['='] cs with
  | none => (decode cs, "")
  | some (name, value) => (decode name, decode value)

/-- The pairs between ampersands. -/
def parse (cs : List Char) : Query :=
  ((Text.splitAll '&' cs).filter (!·.isEmpty)).map parsePair

/-- A number below a limit under a name, if the name is given; fails if it is given twice, or is
    no such number. -/
def integer? (q : Query) (name : String) (limit : Nat) : Option (Option Nat) :=
  match q.filter (·.1 == name) with
  | [] => some none
  | [(_, value)] => (Text.readInteger? limit value.toList).map some
  | _ => none

end Query

namespace Segment

/-- The text of a segment. -/
def text? (s : Segment) : Option String := utf8Text? (percentDecode s.toUTF8.toList)

/-- The number below a limit that a segment says. -/
def integer? (s : Segment) (limit : Nat) : Option Nat := do
  Text.readInteger? limit (← s.text?).toList

end Segment

namespace Target

/-- The number of bytes that a target may have. -/
def maxSize : Nat := 65534

/-- Of ASCII, blanks and control characters cannot stand in a target as they are. -/
def isVisible (c : Char) : Bool := 0x20 < c.toNat && c.toNat != 0x7F

/-- May this character stand in a path as it is? -/
def inPath (c : Char) : Bool := isVisible c && !"<>\u0060".toList.contains c

/-- May this character stand in a query as it is? -/
def inQuery (c : Char) : Bool := isVisible c && !"<>\"".toList.contains c

/-- The segments of a path, which starts with a slash. -/
def parsePath : List Char → List Segment
  | '/' :: rest => (Text.splitAll '/' rest).map String.ofList
  | _ => []

/-- A target without scheme and authority. -/
def parseRelative? (cs : List Char) : Option Target :=
  let front := cs.takeWhile (· ≠ '#')
  match Text.splitOnce? ['?'] front with
  | none => if front.all inPath then some ⟨parsePath front, []⟩ else none
  | some (path, query) =>
    if path.all inPath && query.all inQuery then some ⟨parsePath path, Query.parse query⟩ else none

/-- A target with a scheme and an authority in front; both are dropped. -/
def parseAbsolute? (cs : List Char) : Option Target := do
  let rest ← scheme? cs
  let host := rest.takeWhile fun c => !"/?#".toList.contains c
  if !host.isEmpty && isAuthority host then parseRelative? (rest.drop host.length) else none

/-- A target that names a host alone, or no host at all, has no path. -/
def parseHost? (cs : List Char) : Option Target :=
  if cs == ['*'] || (!cs.isEmpty && isAuthority cs) then some ⟨[], []⟩ else none

/-- Path and query of a target. -/
def parse? (text : String) : Option Target :=
  let cs := text.toList
  if maxSize < text.utf8ByteSize then none
  else if cs.head? == some '/' then parseRelative? cs
  else (parseAbsolute? cs).or (parseHost? cs)

end Target

end ExitBridge
