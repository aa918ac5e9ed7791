/-
  Texts in parts.

  * `Text.splitAll sep cs`: the parts between separators; without a separator, the text alone.
  * `Text.splitOnce? mark cs`: what lies before and behind the first occurrence of a mark.
  * `Text.join sep parts`: parts with a separator between them.
-/

namespace ExitBridge.Text

/-- The parts of a text between separators. -/
def splitAll (sep : Char) : List Char → List (List Char)
  | [] => [[]]
  | c :: cs =>
    if c = sep then [] :: splitAll sep cs
    else
      match splitAll sep cs with
      | [] => [[c]]
      | part :: parts => (c :: part) :: parts

/-- What lies before and behind the first occurrence of a mark. -/
def splitOnce? (mark : List Char) : List Char → Option (List Char × List Char)
  | [] => if mark.isEmpty then some ([], []) else none
  | c :: cs =>
    if mark.isPrefixOf (c :: cs) then some ([], (c :: cs).drop mark.length)
    else (splitOnce? mark cs).map fun (before, behind) => (c :: before, behind)

/-- Parts with a separator between them. -/
def join (sep : Char) (parts : List (List Char)) : List Char :=
  [sep].intercalate parts

theorem splitAll_ne_nil (sep : Char) (cs : List Char) : splitAll sep cs ≠ [] := by
  induction cs with
  | nil => simp [splitAll]
  | cons c cs ih =>
    unfold splitAll
    split
    · simp
    · split <;> simp

theorem join_splitAll (sep : Char) (cs : List Char) : join sep (splitAll sep cs) = cs := by
  induction cs with
  | nil => rfl
  | cons c cs ih =>
    unfold splitAll
    split
    · rename_i h
      cases hp : splitAll sep cs with
      | nil => exact absurd hp (splitAll_ne_nil sep cs)
      | cons part parts =>
        rw [hp] at ih
        simpa [join, List.intercalate, h] using ih
    · cases hp : splitAll sep cs with
      | nil => exact absurd hp (splitAll_ne_nil sep cs)
      | cons part parts =>
        rw [hp] at ih
        cases parts with
        | nil => simpa [join, List.intercalate] using ih
        | cons _ _ => simpa [join, List.intercalate] using ih

theorem eq_of_splitOnce? {mark cs before behind : List Char}
    (h : splitOnce? mark cs = some (before, behind)) : cs = before ++ mark ++ behind := by
  induction cs generalizing before with
  | nil =>
    unfold splitOnce? at h
    split at h <;> simp_all
  | cons c cs ih =>
    unfold splitOnce? at h
    split at h
    · rename_i hp
      obtain ⟨rest, hr⟩ := List.isPrefixOf_iff_prefix.1 hp
      simp only [Option.some.injEq, Prod.mk.injEq] at h
      obtain ⟨rfl, rfl⟩ := h
      simp [← hr]
    · simp only [Option.map_eq_some_iff, Prod.mk.injEq, Prod.exists] at h
      obtain ⟨b, r, hs, rfl, rfl⟩ := h
      simp [ih hs]

end ExitBridge.Text
