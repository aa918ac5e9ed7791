/-
  Numbers in JSON text.

  A number is as long as the rules let it be; what follows is for others to judge. Its size is
  computed in doubles, from the digits that fit 64 bits and a power of ten, and a number that
  becomes infinite on the way is refused.

  * `Json.Numeral`: a number as it is written; `Numeral.scan`: the one at the start of a text.
  * `Numeral.overrun?`: where it shows that it is too large for a double.
  * `Json.scanNumber`: the value of the number at the start of a text.
-/
import ExitBridge.Bytes.BigEndian
import ExitBridge.Json.Scanned
import ExitBridge.Json.Value

namespace ExitBridge.Json

/-- A number as it is written. -/
structure Numeral where
  negative : Bool
  /-- The digits in front of the point. -/
  whole : List Char
  /-- The digits behind the point; none if there is no point. -/
  fraction : List Char
  /-- The letter and the sign of the exponent, if there is one. -/
  mark : List Char
  /-- The digits of the exponent. -/
  exponent : List Char

namespace Numeral

/-- The text of a number. -/
def text (n : Numeral) : List Char :=
  (if n.negative then ['-'] else []) ++ n.whole ++
    (if n.fraction.isEmpty then [] else '.' :: n.fraction) ++ n.mark ++ n.exponent

/-! ## Scanning -/

/-- A sign, if there is one. -/
def scanSign : List Char → Bool × List Char
  | '-' :: rest => (true, rest)
  | text => (false, text)

/-- The digits in front of the point; a zero stands alone. -/
def scanWhole : List Char → Scanned (List Char)
  | [] => .error []
  | c :: rest =>
    if c = '0' then
      if (rest.head?.map Char.isDigit).getD false then .error rest else .ok ([c], rest)
    else if c.isDigit then .ok (c :: rest.takeWhile Char.isDigit, rest.dropWhile Char.isDigit)
    else .error (dropBytes 1 (c :: rest))

/-- A point and the digits behind it, if there is a point; one digit is the least. -/
def scanFraction : List Char → Scanned (List Char)
  | '.' :: rest =>
    if (rest.takeWhile Char.isDigit).isEmpty then .error rest
    else .ok (rest.takeWhile Char.isDigit, rest.dropWhile Char.isDigit)
  | text => .ok ([], text)

/-- The sign of an exponent, if there is one. -/
def scanExponentSign : List Char → List Char × List Char
  | '+' :: rest => (['+'], rest)
  | '-' :: rest => (['-'], rest)
  | text => ([], text)

/-- The mark and the digits of an exponent, if there is one; one digit is the least. -/
def scanExponent : List Char → Scanned (List Char × List Char)
  | [] => .ok (([], []), [])
  | c :: rest =>
    if c == 'e' || c == 'E' then
      let (sign, rest) := scanExponentSign rest
      if (rest.takeWhile Char.isDigit).isEmpty then .error (dropBytes 1 rest)
      else .ok ((c :: sign, rest.takeWhile Char.isDigit), rest.dropWhile Char.isDigit)
    else .ok (([], []), c :: rest)

/-- The number at the start of a text. -/
def scan (text : List Char) : Scanned Numeral :=
  match scanWhole (scanSign text).2 with
  | .error rest => .error rest
  | .ok (whole, rest) =>
    match scanFraction rest with
    | .error rest => .error rest
    | .ok (fraction, rest) =>
      match scanExponent rest with
      | .error rest => .error rest
      | .ok ((mark, exponent), rest) =>
        .ok (⟨(scanSign text).1, whole, fraction, mark, exponent⟩, rest)

/-! ## Lengths -/

theorem length_scanSign_le (text : List Char) : (scanSign text).2.length ≤ text.length := by
  unfold scanSign
  split <;> simp

theorem length_scanExponentSign_le (text : List Char) :
    (scanExponentSign text).2.length ≤ text.length := by
  unfold scanExponentSign
  split <;> simp

theorem length_of_scanWhole {text ds rest : List Char} (h : scanWhole text = .ok (ds, rest)) :
    rest.length < text.length := by
  cases text with
  | nil => simp [scanWhole] at h
  | cons c text =>
    simp only [scanWhole] at h
    split at h
    · split at h
      · cases h
      · cases h
        simp
    · split at h
      · cases h
        have := (text.dropWhile_suffix Char.isDigit).length_le
        simp
        omega
      · cases h

theorem length_of_scanFraction {text ds rest : List Char}
    (h : scanFraction text = .ok (ds, rest)) : rest.length ≤ text.length := by
  unfold scanFraction at h
  split at h
  · rename_i r
    split at h
    · cases h
    · cases h
      have := (r.dropWhile_suffix Char.isDigit).length_le
      simp
      omega
  · cases h
    exact Nat.le_refl _

theorem length_of_scanExponent {text rest : List Char} {e : List Char × List Char}
    (h : scanExponent text = .ok (e, rest)) : rest.length ≤ text.length := by
  cases text with
  | nil =>
    cases h
    exact Nat.le_refl _
  | cons c text =>
    simp only [scanExponent] at h
    split at h
    · split at h
      · cases h
      · cases h
        have h1 := length_scanExponentSign_le text
        have h2 := ((scanExponentSign text).2.dropWhile_suffix Char.isDigit).length_le
        simp
        omega
    · cases h
      exact Nat.le_refl _

theorem length_of_scan {text rest : List Char} {n : Numeral} (h : scan text = .ok (n, rest)) :
    rest.length < text.length := by
  have h0 := length_scanSign_le text
  unfold scan at h
  split at h
  · cases h
  · rename_i hw
    have h1 := length_of_scanWhole hw
    split at h
    · cases h
    · rename_i hf
      have h2 := length_of_scanFraction hf
      split at h
      · cases h
      · rename_i he
        have h3 := length_of_scanExponent he
        cases h
        omega

/-! ## Size -/

/-- The number that decimal digits stand for. -/
def valueOf (ds : List Char) : Nat :=
  ds.foldl (fun n c => n * 10 + (c.toNat - 48)) 0

/-- A significand with the digits that follow it for as long as it fits 64 bits, and how many
    those are. -/
def absorb (significand count : Nat) : List Char → Nat × Nat
  | [] => (significand, count)
  | c :: ds =>
    let next := significand * 10 + (c.toNat - 48)
    if next < 2 ^ 64 then absorb next (count + 1) ds else (significand, count)

/-- The significand, and the exponent of ten of its last digit. -/
def leadingPart (n : Numeral) : Nat × Int :=
  let (significand, inWhole) := absorb 0 0 n.whole
  let (significand, inFraction) := absorb significand 0 n.fraction
  (significand, n.whole.length - inWhole - inFraction)

/-- The value of an exponent below `2 ^ 31`, or the digits behind the one that takes it there. -/
def exponentValue (value : Nat) : List Char → Except (List Char) Nat
  | [] => .ok value
  | c :: ds =>
    let next := value * 10 + (c.toNat - 48)
    if next < 2 ^ 31 then exponentValue next ds else .error ds

/-- A number to 53 binary digits: the nearest one, and of two the even one. -/
def toDouble (n : Nat) : Nat :=
  let unit := 2 ^ (n.log2 + 1 - 53)
  let quotient := n / unit
  let rest := n % unit
  if unit < 2 * rest || (2 * rest == unit && quotient % 2 == 1) then (quotient + 1) * unit
  else quotient * unit

/-- Is a significand times a power of ten, both rounded to doubles, too large for a double? -/
def overflows (significand : Nat) (exponent : Int) : Bool :=
  significand != 0 && (decide (308 < exponent) ||
    (decide (0 ≤ exponent) && decide ((2 ^ 54 - 1) * 2 ^ 970 ≤
      toDouble significand * toDouble (10 ^ exponent.toNat))))

/-- Does the sign of the exponent say that it is negative? -/
def shrinks (n : Numeral) : Bool := n.mark.contains '-'

/-- If a number is too large for a double, the digits that are left when that shows: some of those
    of the exponent, if it is too large in itself. -/
def overrun? (n : Numeral) : Option (List Char) :=
  let (significand, place) := n.leadingPart
  match exponentValue 0 n.exponent with
  | .error unread => if significand = 0 || n.shrinks then none else some unread
  | .ok e =>
    if overflows significand (if n.shrinks then place - e else place + e) then some [] else none

/-- The value of a number: an `integer` when there is neither point nor exponent. Minus zero is
    none. -/
def value (n : Numeral) : Json :=
  if n.fraction.isEmpty && n.mark.isEmpty then
    match n.negative, valueOf n.whole with
    | false, v => .integer v
    | true, 0 => .decimal (String.ofList n.text)
    | true, v => .integer (-v)
  else .decimal (String.ofList n.text)

end Numeral

/-- The value of the number at the start of a text. -/
def scanNumber (text : List Char) : Scanned Json :=
  match Numeral.scan text with
  | .error rest => .error rest
  | .ok (n, rest) =>
    match n.overrun? with
    | some unread => .error (unread ++ rest)
    | none => .ok (n.value, rest)

theorem length_of_scanNumber {text rest : List Char} {j : Json}
    (h : scanNumber text = .ok (j, rest)) : rest.length < text.length := by
  unfold scanNumber at h
  split at h
  · cases h
  · rename_i hs
    split at h
    · cases h
    · cases h
      exact Numeral.length_of_scan hs

end ExitBridge.Json
