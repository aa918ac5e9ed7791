/-
  Rendered text reads back.

  Text without blanks is read token by token. A string is read from its escapes, a number from its
  digits up to where they end, and a container by its parts, each of which leaves the reader at a
  comma or at the end of the container.

  * `Json.PlainTo depth j`: the numbers of `j` are natural and have 64 bits, and at most `depth`
    containers are open at once.
  * `Json.Token.next_quoted`, `Json.next_natural`: the tokens of strings and numbers.
  * `Json.Reads`: a value is read from its text, whatever containers are open around it.
  * `Json.parse?_render`: over all plain values that are not too deep.
-/
import Mathlib.Data.Nat.Log
import ExitBridge.Json.Parser
import ExitBridge.Json.Printer

namespace ExitBridge.Json

/-- A scalar other than a number, or a natural number that has 64 bits. -/
def IsPlain : Json → Prop
  | .null | .bool _ | .string _ => True
  | .integer (.ofNat n) => n < 2 ^ 64
  | _ => False

/-- All scalars are plain, and at most `depth` containers are open at once. -/
inductive PlainTo : (depth : Nat) → Json → Prop
  | scalar {depth : Nat} {j : Json} (plain : j.IsPlain) : PlainTo depth j
  | array {depth : Nat} {items : List Json} (each : ∀ j ∈ items, PlainTo depth j) :
      PlainTo (depth + 1) (.array items)
  | object {depth : Nat} {members : List (String × Json)}
      (each : ∀ m ∈ members, PlainTo depth m.2) : PlainTo (depth + 1) (.object members)

/-! ## Strings -/

namespace Token

theorem scanString_of_scanEscape {rest after done : List Char} {c : Char}
    (h : scanEscape .keep rest = .ok (c, after)) :
    scanString .keep ('\\' :: rest) done = scanString .keep after (c :: done) := by
  rw [scanString]
  split
  · rename_i failed
    rw [h] at failed
    cases failed
  · rename_i scanned
    rw [h] at scanned
    cases scanned
    rfl

theorem scanEscape_control {c : Char} (control : c.toNat < 0x20) (rest : List Char) :
    scanEscape .keep ('u' :: '0' :: '0' :: Hex.digit (c.toNat / 16) :: Hex.digit (c.toNat % 16) ::
      rest) = .ok (c, rest) := by
  have unit : unit? '0' '0' (Hex.digit (c.toNat / 16)) (Hex.digit (c.toNat % 16)) =
      some c.toNat := by
    have all : ∀ n : Fin 0x20,
        unit? '0' '0' (Hex.digit (n / 16)) (Hex.digit (n % 16)) = some n.val := by decide
    exact all ⟨c.toNat, control⟩
  have low : isLow c.toNat = false := by simp [isLow]; omega
  have high : isHigh c.toNat = false := by simp [isHigh]; omega
  simp [scanEscape, scanUnicode, scanUnit, unit, low, high]

theorem scanString_escape (c : Char) (rest done : List Char) :
    scanString .keep (escape c ++ rest) done = scanString .keep rest (c :: done) := by
  unfold escape
  split
  iterate 7 exact scanString_of_scanEscape rfl
  split
  · rename_i control
    exact scanString_of_scanEscape (scanEscape_control control rest)
  · rename_i quote backslash _ _ _ _ _ visible
    show scanString .keep (c :: rest) done = _
    rw [scanString]
    · rw [if_neg visible]
    · exact quote
    · exact backslash

/-- The characters of a string are read from their escapes. -/
theorem scanString_flatMap_escape (s rest done : List Char) :
    scanString .keep (s.flatMap escape ++ '"' :: rest) done = .ok (done.reverse ++ s, rest) := by
  induction s generalizing done with
  | nil => rw [List.flatMap_nil, List.nil_append, scanString, List.append_nil]
  | cons c s ih =>
    rw [List.flatMap_cons, List.append_assoc, scanString_escape, ih, List.reverse_cons,
      List.append_assoc, List.singleton_append]

theorem next_quoted (s : String) (rest : List Char) :
    next .keep ((quoted s).toList ++ rest) = .ok (.scalar (.string s), rest) := by
  have text : (quoted s).toList ++ rest = '"' :: (s.toList.flatMap escape ++ '"' :: rest) := by
    simp [quoted]
  rw [text]
  show Scanned.map _ (scanString .keep _ []) = _
  rw [scanString_flatMap_escape]
  simp [Scanned.map]

end Token

/-! ## Numbers -/

/-- No number goes on here. -/
def Ends (rest : List Char) : Prop :=
  ∀ c ∈ rest.head?, c.isDigit = false ∧ c ≠ '.' ∧ c ≠ 'e' ∧ c ≠ 'E'

theorem exists_toDigits (n : Nat) : ∃ c ds, Nat.toDigits 10 n = c :: ds ∧
    (∀ d ∈ c :: ds, d.isDigit = true) ∧ (c = '0' → ds = []) := by
  have digits : ∀ d ∈ Nat.toDigits 10 n, d.isDigit = true := fun d mem =>
    Nat.isDigit_of_mem_toDigits (by decide) (by decide) mem
  suffices ∃ c ds, Nat.toDigits 10 n = c :: ds ∧ (c = '0' → ds = []) by
    obtain ⟨c, ds, text, zero⟩ := this
    exact ⟨c, ds, text, text ▸ digits, zero⟩
  clear digits
  induction n using Nat.strongRecOn with
  | ind n ih =>
    rw [Nat.toDigits_eq_if (by decide)]
    split
    · exact ⟨_, [], rfl, fun _ => rfl⟩
    · rename_i large
      obtain ⟨c, ds, text, zero⟩ := ih (n / 10) (by omega)
      refine ⟨c, ds ++ [(n % 10).digitChar], by rw [text]; rfl, fun isZero => ?_⟩
      -- only zero itself starts with a zero
      rw [isZero, zero isZero] at text
      have value := @Nat.ofDigitChars_ten_toDigits (n / 10)
      rw [text] at value
      have : n / 10 = 0 := value.symm
      omega

namespace Numeral

theorem valueOf_toDigits (n : Nat) : valueOf (Nat.toDigits 10 n) = n := by
  have value := @Nat.ofDigitChars_ten_toDigits n
  simpa [valueOf, Nat.ofDigitChars, Nat.mul_comm] using value

theorem le_foldl_digits (ds : List Char) (n : Nat) :
    n ≤ ds.foldl (fun n c => n * 10 + (c.toNat - 48)) n := by
  induction ds generalizing n with
  | nil => exact Nat.le_refl _
  | cons c ds ih =>
    have one : n ≤ n * 10 + (c.toNat - 48) := by omega
    exact one.trans (ih _)

theorem absorb_of_lt {significand count : Nat} {ds : List Char}
    (h : ds.foldl (fun n c => n * 10 + (c.toNat - 48)) significand < 2 ^ 64) :
    absorb significand count ds =
      (ds.foldl (fun n c => n * 10 + (c.toNat - 48)) significand, count + ds.length) := by
  induction ds generalizing significand count with
  | nil => rfl
  | cons c ds ih =>
    have fits := lt_of_le_of_lt (le_foldl_digits ds _) h
    rw [absorb, if_pos fits, ih h, List.foldl_cons, List.length_cons, Nat.add_assoc,
      Nat.add_comm 1]

/-- Rounding to a double adds less than one unit of the last digit. -/
theorem toDouble_lt {n : Nat} (h : n < 2 ^ 64) : toDouble n < 2 ^ 65 := by
  have log : n.log2 < 64 := by
    by_cases zero : n = 0
    · rw [zero]; decide
    · exact (Nat.log2_lt zero).2 h
  rw [toDouble]
  generalize unit : 2 ^ (n.log2 + 1 - 53) = u
  have small : u ≤ 2 ^ 11 := by
    rw [← unit]
    exact Nat.pow_le_pow_right (by decide) (by omega)
  have down : n / u * u ≤ n := Nat.div_mul_le_self n u
  split
  · rw [Nat.add_mul]
    omega
  · omega

theorem overflows_eq_false {n : Nat} (h : n < 2 ^ 64) : overflows n 0 = false := by
  have one : toDouble (10 ^ (0 : Int).toNat) = 1 := by decide
  have large := Nat.pow_le_pow_right (show 0 < 2 by decide) (show 65 ≤ 970 by decide)
  have larger := large.trans (Nat.le_mul_of_pos_left _ (show 0 < 2 ^ 54 - 1 by decide))
  have small := Nat.not_le_of_lt ((toDouble_lt h).trans_le larger)
  rw [overflows, one, Nat.mul_one, decide_eq_false small]
  simp

theorem scanSign_of_isDigit {c : Char} (h : c.isDigit = true) (rest : List Char) :
    scanSign (c :: rest) = (false, c :: rest) := by
  rw [scanSign]
  rintro - ⟨rfl⟩
  cases h

theorem scanFraction_of_ends {rest : List Char} (ends : Ends rest) :
    scanFraction rest = .ok ([], rest) := by
  rw [scanFraction]
  rintro more rfl
  exact (ends '.' rfl).2.1 rfl

theorem scanExponent_of_ends {rest : List Char} (ends : Ends rest) :
    scanExponent rest = .ok (([], []), rest) := by
  cases rest with
  | nil => rfl
  | cons c rest =>
    obtain ⟨-, -, lower, upper⟩ := ends c rfl
    simp [scanExponent, lower, upper]

theorem scanWhole_toDigits (n : Nat) {rest : List Char} (ends : Ends rest) :
    scanWhole (Nat.toDigits 10 n ++ rest) = .ok (Nat.toDigits 10 n, rest) := by
  obtain ⟨c, ds, text, digits, zero⟩ := exists_toDigits n
  rw [text]
  have none : rest.takeWhile Char.isDigit = [] ∧ rest.dropWhile Char.isDigit = rest := by
    cases rest with
    | nil => exact ⟨rfl, rfl⟩
    | cons d rest =>
      have other := (ends d rfl).1
      simp [other]
  rw [List.cons_append, scanWhole]
  split
  · rename_i isZero
    rw [zero isZero, List.nil_append, if_neg]
    cases rest with
    | nil => decide
    | cons d rest =>
      have other := (ends d rfl).1
      simp [other]
  · have others : ∀ d ∈ ds, d.isDigit = true := fun d mem => digits d (List.mem_cons_of_mem _ mem)
    rw [if_pos (digits c List.mem_cons_self), List.takeWhile_append_of_pos others,
      List.dropWhile_append_of_pos others, none.1, none.2, List.append_nil]

end Numeral

/-- A number of 64 bits is read from its digits. -/
theorem scanNumber_toDigits {n : Nat} (h : n < 2 ^ 64) {rest : List Char} (ends : Ends rest) :
    scanNumber (Nat.toDigits 10 n ++ rest) = .ok (.integer n, rest) := by
  have scanned : Numeral.scan (Nat.toDigits 10 n ++ rest) =
      .ok (⟨false, Nat.toDigits 10 n, [], [], []⟩, rest) := by
    have sign : Numeral.scanSign (Nat.toDigits 10 n ++ rest) =
        (false, Nat.toDigits 10 n ++ rest) := by
      obtain ⟨c, ds, text, digits, -⟩ := exists_toDigits n
      rw [text]
      exact Numeral.scanSign_of_isDigit (digits c List.mem_cons_self) _
    simp only [Numeral.scan, sign, Numeral.scanWhole_toDigits n ends,
      Numeral.scanFraction_of_ends ends, Numeral.scanExponent_of_ends ends]
  have value := Numeral.valueOf_toDigits n
  have fits : (Numeral.mk false (Nat.toDigits 10 n) [] [] []).overrun? = none := by
    have absorbed : Numeral.absorb 0 0 (Nat.toDigits 10 n) = (n, (Nat.toDigits 10 n).length) := by
      rw [Numeral.valueOf] at value
      rw [Numeral.absorb_of_lt (by rw [value]; exact h), value, Nat.zero_add]
    simp [Numeral.overrun?, Numeral.leadingPart, absorbed, Numeral.absorb, Numeral.exponentValue,
      Numeral.shrinks, Numeral.overflows_eq_false h]
  rw [scanNumber, scanned]
  dsimp only
  rw [fits]
  simp [Numeral.value, value]

theorem Token.next_toDigits {n : Nat} (h : n < 2 ^ 64) {rest : List Char} (ends : Ends rest) :
    next .keep (Nat.toDigits 10 n ++ rest) = .ok (.scalar (.integer n), rest) := by
  have number := scanNumber_toDigits h ends
  obtain ⟨c, ds, text, digits, -⟩ := exists_toDigits n
  have digit : c.isDigit = true := digits c List.mem_cons_self
  rw [text, List.cons_append] at number ⊢
  rw [next, skipBlanks, List.dropWhile_cons, if_neg]
  · rw [scanToken]
    · rw [if_pos (by rw [digit, Bool.or_true]), scanScalarNumber, number]
      rfl
    all_goals
      rintro rfl
      cases digit
  · intro blank
    simp only [isSpace, Bool.or_eq_true, beq_iff_eq] at blank
    rcases blank with ((rfl | rfl) | rfl) | rfl
    all_goals cases digit

/-! ## Text of containers -/

/-- The text of a value. -/
def chars (j : Json) : List Char := j.render.toList

/-- The text of a member. -/
def charsOf (m : String × Json) : List Char := (quoted m.1).toList ++ ':' :: m.2.chars

/-- Parts of a container behind the first. -/
def charsBehind (parts : List (List Char)) : List Char := parts.flatMap (',' :: ·)

theorem renderItems_eq (items : List Json) : renderItems items = items.map render := by
  induction items with
  | nil => rfl
  | cons j items ih => rw [renderItems, ih, List.map_cons]

theorem renderMembers_eq (members : List (String × Json)) :
    renderMembers members = members.map fun m => quoted m.1 ++ ":" ++ render m.2 := by
  induction members with
  | nil => rfl
  | cons m members ih =>
    obtain ⟨name, value⟩ := m
    rw [renderMembers, ih, List.map_cons]

theorem charsBehind_cons (part : List Char) (parts : List (List Char)) (rest : List Char) :
    charsBehind (part :: parts) ++ rest = ',' :: (part ++ (charsBehind parts ++ rest)) := by
  simp [charsBehind]

theorem intercalate_comma (part : List Char) (parts : List (List Char)) :
    List.intercalate [','] (part :: parts) = part ++ charsBehind parts := by
  induction parts generalizing part with
  | nil => simp [charsBehind]
  | cons next parts ih =>
    rw [List.intercalate_cons_cons, ih]
    simp [charsBehind]

theorem chars_array_cons (j : Json) (items : List Json) (rest : List Char) :
    chars (.array (j :: items)) ++ rest =
      '[' :: (j.chars ++ (charsBehind (items.map chars) ++ ']' :: rest)) := by
  have items : (items.map render).map String.toList = items.map chars := List.map_map
  simp [chars, render, renderItems_eq, String.toList_intercalate, intercalate_comma, items,
    -List.map_map]

theorem chars_object_cons (m : String × Json) (members : List (String × Json))
    (rest : List Char) : chars (.object (m :: members)) ++ rest =
      '{' :: (charsOf m ++ (charsBehind (members.map charsOf) ++ '}' :: rest)) := by
  have members : (members.map fun m => quoted m.1 ++ ":" ++ render m.2).map String.toList =
      members.map charsOf := by simp [charsOf, chars]
  simp [chars, charsOf, render, renderMembers_eq, String.toList_intercalate, intercalate_comma,
    members, -List.map_map]

theorem ends_charsBehind (parts : List (List Char)) {close : Char}
    (closes : close = ']' ∨ close = '}') (rest : List Char) :
    Ends (charsBehind parts ++ close :: rest) := by
  intro c first
  have mark : c = ',' ∨ c = ']' ∨ c = '}' := by
    cases parts with
    | nil =>
      cases first
      exact .inr closes
    | cons =>
      cases first
      exact .inl rfl
  rcases mark with rfl | rfl | rfl
  all_goals decide

/-! ## Reading -/

/-- Goes on behind a token. -/
def resume (limit : Nat) (rest : List Char) :
    Option (Expectation × List Frame) → Option (Json × List Char)
  | none => none
  | some (.nothing value, _) => some (value, rest)
  | some (expectation, stack) => run .keep (some limit) rest expectation stack

variable {limit : Nat} {text rest : List Char} {token : Token} {expectation : Expectation}
  {stack : List Frame}

theorem run_of_next (h : Token.next .keep text = .ok (token, rest)) :
    run .keep (some limit) text expectation stack =
      resume limit rest (step (some limit) stack token expectation) := by
  rw [run]
  split
  · rename_i failed
    rw [h] at failed
    cases failed
  · rename_i scanned
    rw [h] at scanned
    cases scanned
    cases step (some limit) stack token expectation with
    | none => rfl
    | some next =>
      obtain ⟨expectation, stack⟩ := next
      cases expectation <;> rfl

/-- The text of a value is read as the value, where up to `limit` containers may be open and
    there is room for `depth` more. -/
def Reads (limit depth : Nat) (j : Json) : Prop :=
  ∀ {rest : List Char} {stack : List Frame}, Ends rest → stack.length + depth ≤ limit →
    ∀ expectation, expectation = .value ∨ expectation = .firstItem →
      run .keep (some limit) (j.chars ++ rest) expectation stack = resume limit rest (give j stack)

variable {depth : Nat} {items : List Json} {members : List (String × Json)} {j : Json}

/-- A part of a container is read in the container. -/
theorem Reads.inside (reads : Reads limit depth j) (ends : Ends rest)
    (room : stack.length + (depth + 1) ≤ limit) (frame : Frame)
    (expected : expectation = .value ∨ expectation = .firstItem) :
    run .keep (some limit) (j.chars ++ rest) expectation (frame :: stack) =
      resume limit rest (give j (frame :: stack)) := by
  refine reads ends ?_ expectation expected
  rw [List.length_cons]
  omega

theorem run_enter {frame : Frame} {next : Expectation}
    (opens : Token.next .keep text = .ok (token, rest))
    (enters : step (some limit) stack token expectation = enter (some limit) frame next stack)
    (behind : ∀ value, next ≠ .nothing value) (room : stack.length + (depth + 1) ≤ limit) :
    run .keep (some limit) text expectation stack =
      run .keep (some limit) rest next (frame :: stack) := by
  have fits : (some limit).all (stack.length < ·) = true := decide_eq_true (by omega)
  rw [run_of_next opens, enters, enter, if_pos fits]
  cases next with
  | nothing value => exact absurd rfl (behind value)
  | _ => rfl

theorem reads_of_next (scalar : ∀ rest, Ends rest →
    Token.next .keep (j.chars ++ rest) = .ok (.scalar j, rest)) : Reads limit depth j := by
  intro rest stack ends _ expectation expected
  rw [run_of_next (scalar rest ends)]
  rcases expected with rfl | rfl
  · rfl
  · rfl

/-- The items of an array behind those already read, and its end. -/
theorem run_items (each : ∀ j ∈ items, Reads limit depth j) (done : List Json)
    (room : stack.length + (depth + 1) ≤ limit) :
    run .keep (some limit) (charsBehind (items.map chars) ++ ']' :: rest) .more
        (.array done :: stack) =
      resume limit rest (give (.array (done.reverse ++ items)) stack) := by
  induction items generalizing done with
  | nil =>
    have closes : Token.next .keep (']' :: rest) = .ok (.closeArray, rest) := rfl
    rw [List.append_nil]
    exact run_of_next closes
  | cons j items ih =>
    have one : Reads limit depth j := each j List.mem_cons_self
    have others := ih (fun j mem => each j (List.mem_cons_of_mem _ mem)) (j :: done)
    rw [List.reverse_cons, List.append_assoc] at others
    rw [List.map_cons, charsBehind_cons, run_of_next rfl]
    show run _ _ _ .value (.array done :: stack) = _
    have ends := ends_charsBehind (items.map chars) (.inl rfl) rest
    rw [one.inside ends room _ (.inl rfl)]
    exact others

theorem reads_array (each : ∀ j ∈ items, Reads limit depth j) :
    Reads limit (depth + 1) (.array items) := by
  intro rest stack _ room expectation expected
  have opens (text : List Char) : run .keep (some limit) ('[' :: text) expectation stack =
      run .keep (some limit) text .firstItem (.array [] :: stack) := by
    have enters : step (some limit) stack .openArray expectation =
        enter (some limit) (.array []) .firstItem stack := by
      rcases expected with rfl | rfl
      · rfl
      · rfl
    exact run_enter rfl enters nofun room
  cases items with
  | nil =>
    have closes : Token.next .keep (']' :: rest) = .ok (.closeArray, rest) := rfl
    rw [show chars (.array []) = ['[', ']'] from rfl]
    exact (opens _).trans (run_of_next closes)
  | cons j items =>
    have one : Reads limit depth j := each j List.mem_cons_self
    have ends := ends_charsBehind (items.map chars) (.inl rfl) rest
    rw [chars_array_cons, opens, one.inside ends room _ (.inr rfl)]
    exact run_items (fun j mem => each j (List.mem_cons_of_mem _ mem)) [j] room

theorem run_member {m : String × Json} (value : Reads limit depth m.2) (ends : Ends rest)
    (done : List (String × Json)) (room : stack.length + (depth + 1) ≤ limit)
    (expected : expectation = .name ∨ expectation = .firstName) :
    run .keep (some limit) (charsOf m ++ rest) expectation (.object done :: stack) =
      run .keep (some limit) rest .more (.object (m :: done) :: stack) := by
  have text : charsOf m ++ rest = (quoted m.1).toList ++ ':' :: (m.2.chars ++ rest) := by
    simp [charsOf]
  rw [text, run_of_next (Token.next_quoted m.1 _)]
  have named : step (some limit) (.object done :: stack) (.scalar (.string m.1)) expectation =
      some (.colon, .member done m.1 :: stack) := by
    rcases expected with rfl | rfl
    · rfl
    · rfl
  rw [named]
  show run _ _ _ .colon _ = _
  rw [run_of_next rfl]
  show run _ _ _ .value _ = _
  rw [value.inside ends room _ (.inl rfl)]
  rfl

theorem run_members (each : ∀ m ∈ members, Reads limit depth m.2) (done : List (String × Json))
    (room : stack.length + (depth + 1) ≤ limit) :
    run .keep (some limit) (charsBehind (members.map charsOf) ++ '}' :: rest) .more
        (.object done :: stack) =
      resume limit rest (give (.object (done.reverse ++ members)) stack) := by
  induction members generalizing done with
  | nil =>
    have closes : Token.next .keep ('}' :: rest) = .ok (.closeObject, rest) := rfl
    rw [List.append_nil]
    exact run_of_next closes
  | cons m members ih =>
    have others := ih (fun m mem => each m (List.mem_cons_of_mem _ mem)) (m :: done)
    rw [List.reverse_cons, List.append_assoc] at others
    rw [List.map_cons, charsBehind_cons, run_of_next rfl]
    show run _ _ _ .name _ = _
    have ends := ends_charsBehind (members.map charsOf) (.inr rfl) rest
    rw [run_member (each m List.mem_cons_self) ends done room (.inl rfl)]
    exact others

theorem reads_object (each : ∀ m ∈ members, Reads limit depth m.2) :
    Reads limit (depth + 1) (.object members) := by
  intro rest stack _ room expectation expected
  have opens (text : List Char) : run .keep (some limit) ('{' :: text) expectation stack =
      run .keep (some limit) text .firstName (.object [] :: stack) := by
    have enters : step (some limit) stack .openObject expectation =
        enter (some limit) (.object []) .firstName stack := by
      rcases expected with rfl | rfl
      · rfl
      · rfl
    exact run_enter rfl enters nofun room
  cases members with
  | nil =>
    have closes : Token.next .keep ('}' :: rest) = .ok (.closeObject, rest) := rfl
    rw [show chars (.object []) = ['{', '}'] from rfl]
    exact (opens _).trans (run_of_next closes)
  | cons m members =>
    have ends := ends_charsBehind (members.map charsOf) (.inr rfl) rest
    rw [chars_object_cons, opens, run_member (each m List.mem_cons_self) ends [] room (.inr rfl)]
    exact run_members (fun m mem => each m (List.mem_cons_of_mem _ mem)) [m] room

theorem next_natural {n : Nat} (h : n < 2 ^ 64) (ends : Ends rest) :
    Token.next .keep (chars (.integer (.ofNat n)) ++ rest) =
      .ok (.scalar (.integer (.ofNat n)), rest) := by
  have text : chars (.integer (.ofNat n)) = Nat.toDigits 10 n := String.toList_ofList
  rw [text]
  exact Token.next_toDigits h ends

theorem reads_scalar (plain : j.IsPlain) : Reads limit depth j := by
  refine reads_of_next fun rest ends => ?_
  match j, plain with
  | .null, _ => simp [chars, render, Token.next, skipBlanks, isSpace, Token.scanToken,
      Token.scanLiteral, scanWord]
  | .bool true, _ => simp [chars, render, Token.next, skipBlanks, isSpace, Token.scanToken,
      Token.scanLiteral, scanWord]
  | .bool false, _ => simp [chars, render, Token.next, skipBlanks, isSpace, Token.scanToken,
      Token.scanLiteral, scanWord]
  | .integer (.ofNat _), fits => exact next_natural fits ends
  | .string s, _ => exact Token.next_quoted s rest

/-- **Plain values are read from their text.** -/
theorem reads_of_plainTo (plain : j.PlainTo depth) : Reads limit depth j := by
  induction plain with
  | scalar plain => exact reads_scalar plain
  | array _ each => exact reads_array each
  | object _ each => exact reads_object each

/-- **Text reads back.** A plain value that is not too deep is what its text is read as. -/
theorem parse?_render (plain : j.PlainTo maxDepth) : parse? j.render = some j := by
  have reads : Reads maxDepth maxDepth j := reads_of_plainTo plain
  have ends : Ends [] := by
    intro c first
    cases first
  have read : run .keep (some maxDepth) (j.chars ++ []) .value [] = some (j, []) :=
    reads ends (Nat.le_refl _) .value (.inl rfl)
  rw [List.append_nil] at read
  rw [parse?, readValue]
  show (run _ _ j.chars _ _).bind _ = _
  rw [read]
  rfl

end ExitBridge.Json
