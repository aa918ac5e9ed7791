/-
  Integers in decimal digits.

  * `Text.readInteger? limit cs`: a number below the limit, written in decimal digits with an
    optional plus sign in front.
-/

namespace ExitBridge.Text

/-- The number that decimal digits stand for. -/
def ofDigits (cs : List Char) : Nat :=
  cs.foldl (fun n c => n * 10 + (c.toNat - 48)) 0

/-- The text behind an optional plus sign. -/
def unsigned : List Char → List Char
  | '+' :: rest => rest
  | cs => cs

/-- A number below a limit. -/
def readInteger? (limit : Nat) (cs : List Char) : Option Nat :=
  let digits := unsigned cs
  if digits.isEmpty || !digits.all Char.isDigit then none
  else if ofDigits digits < limit then some (ofDigits digits)
  else none

end ExitBridge.Text
