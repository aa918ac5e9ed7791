/-
  The schemes and authorities of absolute targets.

  * `scheme? cs`: the text behind a scheme and its slashes.
  * `isAuthority cs`: may a text name a host, with a user and a number?
-/
import ExitBridge.Text.Split

namespace ExitBridge

/-- A letter or a digit. -/
def isAlphanumeric (c : Char) : Bool := c.isAlpha || c.isDigit

/-- The text behind a scheme and its slashes. -/
def scheme? (cs : List Char) : Option (List Char) := do
  let (scheme, rest) ← Text.splitOnce? [':'] cs
  guard (scheme.length ≤ 64 && scheme.all fun c => isAlphanumeric c || "+-.~".toList.contains c)
  match rest with
  | '/' :: '/' :: rest => some rest
  | _ => none

/-! ## Authorities -/

/-- What has been seen of an authority. A colon counts, and a percent sign is open, until a bracket
    closes or the name of a user ends. -/
structure AuthorityState where
  colons : Nat
  opened : Bool
  closed : Bool
  percent : Bool

namespace AuthorityState

/-- One character. -/
def step (s : AuthorityState) (c : Char) : Option AuthorityState :=
  match c with
  | ':' => if s.colons < 8 then some { s with colons := s.colons + 1 } else none
  | '[' => if s.percent || s.opened then none else some { s with opened := true }
  | ']' =>
    if !s.opened || s.closed then none
    else some { s with closed := true, colons := 0, percent := false }
  | '@' => some { s with colons := 0, percent := false }
  | '%' => some { s with percent := true }
  | c => if isAlphanumeric c || "!$&'()*+,-.;=_~".toList.contains c then some s else none

/-- May the authority end here? -/
def isComplete (s : AuthorityState) : Bool :=
  s.opened == s.closed && s.colons ≤ 1 && !s.percent

end AuthorityState

/-- May a text name a host, with a user and a number? -/
def isAuthority (cs : List Char) : Bool :=
  match cs.foldlM AuthorityState.step ⟨0, false, false, false⟩ with
  | none => false
  | some s => s.isComplete && cs.getLast? != some '@'

end ExitBridge
