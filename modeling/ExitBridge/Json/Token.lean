/-
  The tokens of JSON text.

  A token is a punctuation mark or a complete scalar. A value may be read to be kept or to be
  skipped. In one that is kept, an escape of a UTF-16 surrogate must come in a pair, and a number
  must not be larger than any double; in one that is skipped neither is looked at. Control
  characters in strings must be escaped in both.

  * `Json.Token.next`: the token at the start of a text.
-/
import ExitBridge.Bytes.Hex
import ExitBridge.Json.Number

namespace ExitBridge.Json

/-- What a value is read for. -/
inductive Purpose where
  | keep
  | skip
  deriving DecidableEq, Inhabited

/-- A punctuation mark or a scalar. -/
inductive Token where
  | openArray
  | closeArray
  | openObject
  | closeObject
  | colon
  | comma
  | scalar (value : Json)

namespace Token

/-! ## Strings -/

/-- The UTF-16 unit behind four hexadecimal digits. -/
def unit? (a b c d : Char) : Option Nat := do
  return (((← Hex.value? a) * 16 + (← Hex.value? b)) * 16 + (← Hex.value? c)) * 16 +
    (← Hex.value? d)

/-- The UTF-16 unit at the start of a text. -/
def scanUnit : List Char → Scanned Nat
  | a :: b :: c :: d :: rest =>
    match unit? a b c d with
    | some u => .ok (u, rest)
    | none => .error (dropBytes 4 (a :: b :: c :: d :: rest))
  | text => .error (dropBytes 4 text)

/-- Is this UTF-16 unit the first half of a pair? -/
def isHigh (u : Nat) : Bool := 0xD800 ≤ u && u < 0xDC00

/-- Is this UTF-16 unit the second half of a pair? -/
def isLow (u : Nat) : Bool := 0xDC00 ≤ u && u < 0xE000

/-- The second half of a pair, with its escape. -/
def scanLow : List Char → Scanned Nat
  | '\\' :: 'u' :: rest =>
    match scanUnit rest with
    | .error rest => .error rest
    | .ok (u, rest) => if isLow u then .ok (u, rest) else .error rest
  | '\\' :: rest => .error (dropBytes 1 rest)
  | text => .error (dropBytes 1 text)

/-- The character of an escaped UTF-16 unit; a half of a pair needs the other one. -/
def scanUnicode (text : List Char) : Scanned Char :=
  match scanUnit text with
  | .error rest => .error rest
  | .ok (u, rest) =>
    if isLow u then .error rest
    else if isHigh u then
      match scanLow rest with
      | .error rest => .error rest
      | .ok (v, rest) => .ok (Char.ofNat (0x10000 + (u - 0xD800) * 0x400 + (v - 0xDC00)), rest)
    else .ok (Char.ofNat u, rest)

/-- The character behind a one-letter escape. -/
def shortEscape? : Char → Option Char
  | '"' => some '"'
  | '\\' => some '\\'
  | '/' => some '/'
  | 'b' => some '\x08'
  | 'f' => some '\x0c'
  | 'n' => some '\n'
  | 'r' => some '\r'
  | 't' => some '\t'
  | _ => none

/-- The character of an escape, behind the backslash. Where it is skipped, any UTF-16 unit will
    do. -/
def scanEscape (purpose : Purpose) : List Char → Scanned Char
  | [] => .error []
  | 'u' :: rest =>
    match purpose with
    | .keep => scanUnicode rest
    | .skip => Scanned.map (fun _ => '\ufffd') (scanUnit rest)
  | c :: rest =>
    match shortEscape? c with
    | some e => .ok (e, rest)
    | none => .error (dropBytes 1 (c :: rest))

theorem length_of_scanUnit {text rest : List Char} {u : Nat} (h : scanUnit text = .ok (u, rest)) :
    rest.length < text.length := by
  unfold scanUnit at h
  split at h
  · split at h
    · cases h
      simp
      omega
    · cases h
  · cases h

theorem length_of_scanLow {text rest : List Char} {u : Nat} (h : scanLow text = .ok (u, rest)) :
    rest.length < text.length := by
  unfold scanLow at h
  split at h
  · split at h
    · cases h
    · rename_i hu
      have := length_of_scanUnit hu
      split at h
      · cases h
        simp
        omega
      · cases h
  · cases h
  · cases h

theorem length_of_scanUnicode {text rest : List Char} {c : Char}
    (h : scanUnicode text = .ok (c, rest)) : rest.length < text.length := by
  unfold scanUnicode at h
  split at h
  · cases h
  · rename_i hu
    have := length_of_scanUnit hu
    split at h
    · cases h
    · split at h
      · split at h
        · cases h
        · rename_i hv
          have := length_of_scanLow hv
          simp only [Except.ok.injEq, Prod.mk.injEq] at h
          obtain ⟨-, rfl⟩ := h
          omega
      · simp only [Except.ok.injEq, Prod.mk.injEq] at h
        obtain ⟨-, rfl⟩ := h
        omega

theorem length_of_scanEscape {purpose : Purpose} {text rest : List Char} {c : Char}
    (h : scanEscape purpose text = .ok (c, rest)) : rest.length < text.length := by
  unfold scanEscape at h
  split at h
  · cases h
  · rename_i r
    split at h
    · have := length_of_scanUnicode h
      simp
      omega
    · obtain ⟨u, hu, -⟩ := Scanned.of_map h
      have := length_of_scanUnit hu
      simp
      omega
  · split at h
    · cases h
      simp
    · cases h

/-- The characters of a string behind its opening quote, put behind those already read. -/
def scanString (purpose : Purpose) (text done : List Char) : Scanned (List Char) :=
  match text with
  | [] => .error []
  | '"' :: rest => .ok (done.reverse, rest)
  | '\\' :: rest =>
    match h : scanEscape purpose rest with
    | .error rest => .error rest
    | .ok (c, after) =>
      have := length_of_scanEscape h
      scanString purpose after (c :: done)
  | c :: rest => if c.toNat < 0x20 then .error rest else scanString purpose rest (c :: done)
termination_by text.length

theorem length_of_scanString {purpose : Purpose} {text done s rest : List Char}
    (h : scanString purpose text done = .ok (s, rest)) : rest.length < text.length := by
  fun_induction scanString purpose text done with
  | case2 => simp_all
  | case4 =>
    rename_i ih
    have := ih h
    simp
    omega
  | case6 =>
    rename_i ih
    have := ih h
    simp
    omega
  | _ => simp_all

/-! ## Tokens -/

/-- A scalar that is a word, behind its first letter. -/
def scanLiteral (word : String) (value : Json) (text : List Char) : Scanned Token :=
  match scanWord word.toList text with
  | .error rest => .error rest
  | .ok rest => .ok (.scalar value, rest)

/-- The value of the number at the start of a text; where it is skipped, its size does not
    matter. -/
def scanScalarNumber (purpose : Purpose) (text : List Char) : Scanned Token :=
  match purpose with
  | .keep => Scanned.map .scalar (scanNumber text)
  | .skip => Scanned.map (fun _ => .scalar .null) (Numeral.scan text)

/-- The token at the start of a text without blanks in front. -/
def scanToken (purpose : Purpose) : List Char → Scanned Token
  | [] => .error []
  | '[' :: rest => .ok (.openArray, rest)
  | ']' :: rest => .ok (.closeArray, rest)
  | '{' :: rest => .ok (.openObject, rest)
  | '}' :: rest => .ok (.closeObject, rest)
  | ':' :: rest => .ok (.colon, rest)
  | ',' :: rest => .ok (.comma, rest)
  | 'n' :: rest => scanLiteral "ull" .null rest
  | 't' :: rest => scanLiteral "rue" (.bool true) rest
  | 'f' :: rest => scanLiteral "alse" (.bool false) rest
  | '"' :: rest =>
    Scanned.map (fun s => .scalar (.string (String.ofList s))) (scanString purpose rest [])
  | c :: rest =>
    if c == '-' || c.isDigit then scanScalarNumber purpose (c :: rest) else .error (c :: rest)

/-- The token at the start of a text. -/
def next (purpose : Purpose) (text : List Char) : Scanned Token :=
  scanToken purpose (skipBlanks text)

theorem length_of_scanLiteral {word : String} {value : Json} {text rest : List Char} {t : Token}
    (h : scanLiteral word value text = .ok (t, rest)) : rest.length ≤ text.length := by
  unfold scanLiteral at h
  split at h
  · cases h
  · rename_i hw
    have := length_of_scanWord hw
    cases h
    exact this

theorem length_of_scanScalarNumber {purpose : Purpose} {text rest : List Char} {t : Token}
    (h : scanScalarNumber purpose text = .ok (t, rest)) : rest.length < text.length := by
  cases purpose with
  | keep =>
    obtain ⟨n, hn, -⟩ := Scanned.of_map h
    exact length_of_scanNumber hn
  | skip =>
    obtain ⟨n, hn, -⟩ := Scanned.of_map h
    exact Numeral.length_of_scan hn

theorem length_of_scanToken {purpose : Purpose} {text rest : List Char} {t : Token}
    (h : scanToken purpose text = .ok (t, rest)) : rest.length < text.length := by
  unfold scanToken at h
  split at h
  case h_1 => cases h
  case h_8 | h_9 | h_10 =>
    have := length_of_scanLiteral h
    simp
    omega
  case h_11 =>
    obtain ⟨s, hs, -⟩ := Scanned.of_map h
    have := length_of_scanString hs
    simp
    omega
  case h_12 =>
    split at h
    · exact length_of_scanScalarNumber h
    · cases h
  all_goals
    cases h
    simp

/-- A token is not empty, so reading token by token comes to an end. -/
theorem length_of_next {purpose : Purpose} {text rest : List Char} {t : Token}
    (h : next purpose text = .ok (t, rest)) : rest.length < text.length :=
  Nat.lt_of_lt_of_le (length_of_scanToken h) (length_skipBlanks_le text)

end Token

end ExitBridge.Json
