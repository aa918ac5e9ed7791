/-
  Scanning text from its start.

  A scanner takes what it looks for from the start of a text. Where that ends, it gives the text
  behind it; where it turns out not to be there, it gives the text behind the place where that
  shows, so that a reader who can do without it knows where to go on.

  * `Json.Scanned`: the outcome; `Scanned.map`: the same of what was scanned.
  * `Json.skipBlanks`: the text behind blanks; `Json.scanWord`: a fixed word.
  * `Json.dropBytes n`: the text behind bytes that need not be whole characters.
-/

namespace ExitBridge.Json

/-- What was scanned and the text behind it, or the text behind the place where scanning failed. -/
abbrev Scanned (α : Type) := Except (List Char) (α × List Char)

namespace Scanned

variable {α β : Type}

/-- The outcome for what something scanned stands for. -/
def map (f : α → β) : Scanned α → Scanned β
  | .error rest => .error rest
  | .ok (a, rest) => .ok (f a, rest)

theorem of_map {f : α → β} {s : Scanned α} {b : β} {rest : List Char}
    (h : s.map f = .ok (b, rest)) : ∃ a, s = .ok (a, rest) ∧ f a = b := by
  unfold map at h
  split at h
  · cases h
  · rename_i a r
    simp only [Except.ok.injEq, Prod.mk.injEq] at h
    exact ⟨a, by rw [h.2], h.1⟩

end Scanned

/-- Is this a blank between tokens? -/
def isSpace (c : Char) : Bool := c == ' ' || c == '\t' || c == '\n' || c == '\r'

/-- The text behind blanks. -/
def skipBlanks (text : List Char) : List Char := text.dropWhile isSpace

theorem length_skipBlanks_le (text : List Char) : (skipBlanks text).length ≤ text.length :=
  (text.dropWhile_suffix isSpace).length_le

/-- The text behind its first `n` bytes. A character that they hold a part of stays: nothing can
    go on there, neither behind the part nor in front of the character. -/
def dropBytes : Nat → List Char → List Char
  | _, [] => []
  | n, c :: rest => if c.utf8Size ≤ n then dropBytes (n - c.utf8Size) rest else c :: rest

/-- The text behind a word. -/
def scanWord : List Char → List Char → Except (List Char) (List Char)
  | [], text => .ok text
  | _ :: _, [] => .error []
  | w :: word, c :: rest => if c = w then scanWord word rest else .error (dropBytes 1 (c :: rest))

theorem length_of_scanWord {word text rest : List Char} (h : scanWord word text = .ok rest) :
    rest.length ≤ text.length := by
  induction word generalizing text with
  | nil => simp_all [scanWord]
  | cons w word ih =>
    cases text with
    | nil => simp [scanWord] at h
    | cons c text =>
      by_cases hc : c = w
      · rw [scanWord, if_pos hc] at h
        have := ih h
        simp
        omega
      · simp [scanWord, hc] at h

end ExitBridge.Json
