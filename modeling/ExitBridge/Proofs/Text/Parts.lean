/-
  Parts of a text.

  * `Text.splitAll_join`: parts without the separator are found again;
    `Text.not_mem_of_mem_splitAll`: a part never holds it.
  * `Text.splitOnce?_append`: a mark is found where it first stands, even if its beginning stands
    earlier.
  * `Text.trim_pad`: blanks around a text do not count; `Text.head_trim`, `Text.last_trim`: none is
    left at its ends.
  * `Text.readInteger?_toDigits`: a number is read back from its digits.
-/
import Mathlib.Data.List.DropRight
import Mathlib.Data.List.Infix
import ExitBridge.Text.Blank
import ExitBridge.Text.Integer
import ExitBridge.Text.Split

namespace ExitBridge.Text

variable {sep : Char} {cs : List Char}

/-! ## Separators -/

theorem splitAll_eq_splitOn : splitAll sep cs = cs.splitOn sep := by
  induction cs with
  | nil => rfl
  | cons c cs ih =>
    rw [List.splitOn, List.splitOnP_cons_eq_if_modifyHead, ← List.splitOn, ← ih, splitAll]
    by_cases same : c = sep
    · rw [if_pos same, if_pos (beq_iff_eq.2 same)]
    · rw [if_neg same, if_neg (mt beq_iff_eq.1 same)]
      cases parts : splitAll sep cs with
      | nil => exact absurd parts (splitAll_ne_nil sep cs)
      | cons part parts => rfl

theorem splitAll_join {parts : List (List Char)} (nonempty : parts ≠ [])
    (free : ∀ part ∈ parts, sep ∉ part) : splitAll sep (join sep parts) = parts := by
  rw [splitAll_eq_splitOn, join, List.splitOn_intercalate sep free nonempty]

theorem not_mem_of_mem_splitAll {part : List Char} (h : part ∈ splitAll sep cs) : sep ∉ part := by
  induction cs generalizing part with
  | nil =>
    rw [List.mem_singleton.1 h]
    exact List.not_mem_nil
  | cons c cs ih =>
    rw [splitAll] at h
    split at h
    · rcases List.mem_cons.1 h with rfl | h
      · exact List.not_mem_nil
      · exact ih h
    · rename_i other
      cases parts : splitAll sep cs with
      | nil => exact absurd parts (splitAll_ne_nil sep cs)
      | cons first parts' =>
        rw [parts] at h ih
        rcases List.mem_cons.1 h with rfl | h
        · rw [List.mem_cons, not_or]
          exact ⟨fun same => other same.symm, ih List.mem_cons_self⟩
        · exact ih (List.mem_cons_of_mem _ h)

theorem infix_join {part : List Char} {parts : List (List Char)} (h : part ∈ parts) :
    part <:+: join sep parts := by
  induction parts with
  | nil => cases h
  | cons first rest ih =>
    cases rest with
    | nil =>
      obtain rfl := List.mem_singleton.1 h
      simp [join]
    | cons second rest =>
      have joined : join sep (first :: second :: rest) =
          first ++ [sep] ++ join sep (second :: rest) := by
        simp [join, List.intercalate_cons_cons]
      rw [joined]
      rcases List.mem_cons.1 h with rfl | h
      · rw [List.append_assoc]
        exact (List.prefix_append _ _).isInfix
      · exact (ih h).trans (List.suffix_append _ _).isInfix

/-! ## Marks -/

/-- A mark whose first character does not come again in it cannot start inside a text and reach over
    its end to where the mark stands anew. -/
theorem not_prefix_append {m c : Char} {ms before behind : List Char} (once : m ∉ ms)
    (absent : ¬ (m :: ms) <:+: c :: before) :
    ¬ (m :: ms) <+: c :: before ++ ((m :: ms) ++ behind) := by
  intro starts
  rcases List.prefix_or_prefix_of_prefix starts (List.prefix_append _ _) with
    inside | ⟨excess, reached⟩
  · exact absent inside.isInfix
  · rw [← reached, List.prefix_append_right_inj, reached] at starts
    cases excess with
    | nil =>
      rw [← reached, List.append_nil] at absent
      exact absent List.infix_rfl
    | cons x excess =>
      obtain rfl : x = m := (List.cons_prefix_cons.1 starts).1
      have rest : before ++ x :: excess = ms := (List.cons.inj reached).2
      exact once (rest ▸ List.mem_append_right _ List.mem_cons_self)

theorem splitOnce?_append {m : Char} {ms before : List Char} (behind : List Char) (once : m ∉ ms)
    (absent : ¬ (m :: ms) <:+: before) :
    splitOnce? (m :: ms) (before ++ ((m :: ms) ++ behind)) = some (before, behind) := by
  induction before with
  | nil =>
    rw [List.nil_append, List.cons_append, splitOnce?, if_pos, ← List.cons_append, List.drop_left]
    exact List.isPrefixOf_iff_prefix.2 (List.prefix_append _ _)
  | cons c before ih =>
    have later : ¬ (m :: ms) <:+: before := fun h => absent (h.trans (List.suffix_cons c _).isInfix)
    rw [List.cons_append, splitOnce?, if_neg, ih later, Option.map_some]
    exact fun starts => not_prefix_append once absent (List.isPrefixOf_iff_prefix.1 starts)

theorem splitOnce?_singleton {m : Char} {before : List Char} (behind : List Char)
    (absent : m ∉ before) : splitOnce? [m] (before ++ m :: behind) = some (before, behind) :=
  splitOnce?_append behind List.not_mem_nil (mt (List.singleton_infix_iff m before).1 absent)

/-! ## Ends of a text -/

/-- Nothing but blanks. -/
def Blank (cs : List Char) : Prop := ∀ c ∈ cs, isBlank c = true

instance (cs : List Char) : Decidable (Blank cs) := List.decidableBAll _ cs

theorem Blank.nil : Blank [] := fun _ h => absurd h List.not_mem_nil

variable {p : Char → Bool}

theorem isPrefix_dropEnd (p : Char → Bool) (cs : List Char) : dropEnd p cs <+: cs :=
  List.rdropWhile_prefix p cs

theorem dropEnd_append_cons {before behind : List Char} {e : Char} (h : p e = false) :
    dropEnd p (before ++ e :: behind) = before ++ e :: dropEnd p behind := by
  have stop : (e :: before.reverse).dropWhile p = e :: before.reverse :=
    List.dropWhile_cons_of_neg (by rw [h]; exact Bool.false_ne_true)
  have turned : (before ++ e :: behind).reverse = behind.reverse ++ e :: before.reverse := by simp
  rw [dropEnd, turned, List.dropWhile_append, dropEnd]
  split
  · rename_i none
    rw [List.isEmpty_iff.1 none, stop]
    simp
  · simp

theorem last_dropEnd : ∀ c ∈ (dropEnd p cs).getLast?, p c = false := by
  intro c last
  rw [dropEnd, List.getLast?_reverse] at last
  have stops := List.head?_dropWhile_not p cs.reverse
  rw [last] at stops
  exact stops

theorem dropEnd_of_last (h : ∀ c ∈ cs.getLast?, p c = false) : dropEnd p cs = cs := by
  refine List.rdropWhile_eq_self_iff.2 fun nonempty => ?_
  rw [h _ (List.getLast?_eq_some_getLast nonempty)]
  exact Bool.false_ne_true

theorem dropEnd_append {behind : List Char} (h : ∀ c ∈ behind, p c = true) :
    dropEnd p (cs ++ behind) = dropEnd p cs := by
  rw [dropEnd, List.reverse_append, List.dropWhile_append_of_pos, ← dropEnd]
  exact fun c mem => h c (List.mem_reverse.1 mem)

theorem trim_pad {before behind : List Char} (blank : Blank before) (blank' : Blank behind) :
    trim (before ++ (cs ++ behind)) = trim cs := by
  rw [trim, List.dropWhile_append_of_pos blank, List.dropWhile_append]
  split
  · rename_i none
    rw [List.isEmpty_iff] at none
    rw [List.dropWhile_eq_nil_iff.2 blank', trim, none]
  · exact dropEnd_append blank'

theorem trim_of_blank (blank : Blank cs) : trim cs = [] := by
  rw [trim, List.dropWhile_eq_nil_iff.2 blank]
  rfl

theorem isInfix_trim (cs : List Char) : trim cs <:+: cs :=
  (isPrefix_dropEnd _ _).isInfix.trans (List.dropWhile_suffix _).isInfix

theorem head_trim : ∀ c ∈ (trim cs).head?, isBlank c = false := by
  intro c first
  have stops := List.head?_dropWhile_not isBlank cs
  obtain ⟨rest, text⟩ := isPrefix_dropEnd isBlank (cs.dropWhile isBlank)
  rw [← text, List.head?_append, ← trim, first] at stops
  exact stops

theorem last_trim : ∀ c ∈ (trim cs).getLast?, isBlank c = false :=
  last_dropEnd

theorem trim_of_ends (first : ∀ c ∈ cs.head?, isBlank c = false)
    (last : ∀ c ∈ cs.getLast?, isBlank c = false) : trim cs = cs := by
  have whole : cs.dropWhile isBlank = cs := by
    cases cs with
    | nil => rfl
    | cons c cs => rw [List.dropWhile_cons_of_neg (by rw [first c rfl]; exact Bool.false_ne_true)]
  rw [trim, whole, dropEnd_of_last last]

/-! ## Numbers -/

theorem isBlank_of_isDigit {c : Char} (h : c.isDigit = true) : isBlank c = false := by
  have least : 48 ≤ c.toNat := (Char.isDigit_iff_toNat.1 h).1
  have most : c.toNat ≤ 57 := (Char.isDigit_iff_toNat.1 h).2
  simp only [isBlank, Bool.or_eq_false_iff, Bool.and_eq_false_iff, decide_eq_false_iff_not,
    beq_eq_false_iff_ne]
  omega

theorem isDigit_of_mem_toDigits {n : Nat} : ∀ d ∈ Nat.toDigits 10 n, d.isDigit = true :=
  fun _ mem => Nat.isDigit_of_mem_toDigits (by decide) (by decide) mem

theorem ofDigits_toDigits (n : Nat) : ofDigits (Nat.toDigits 10 n) = n := by
  have value := @Nat.ofDigitChars_ten_toDigits n
  simpa [ofDigits, Nat.ofDigitChars, Nat.mul_comm] using value

/-- A number is read back from its digits. -/
theorem readInteger?_toDigits {limit n : Nat} (h : n < limit) :
    readInteger? limit (Nat.toDigits 10 n) = some n := by
  have digits := @isDigit_of_mem_toDigits n
  have value := ofDigits_toDigits n
  cases text : Nat.toDigits 10 n with
  | nil => exact absurd text Nat.toDigits_ne_nil
  | cons c cs =>
    rw [text] at digits value
    have unsignedText : unsigned (c :: cs) = c :: cs := by
      unfold unsigned
      split
      · rename_i rest plus
        have := digits '+' (by rw [plus]; exact List.mem_cons_self)
        cases this
      · rfl
    have all : (c :: cs).all Char.isDigit = true := List.all_eq_true.2 digits
    simp [readInteger?, unsignedText, all, value, h]

end ExitBridge.Text
