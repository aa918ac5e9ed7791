/-
  JSON that says the same and maybe more.

  Whoever passes JSON on may write the members of an object in another order, and put others beside
  them under names of their own, at any depth.

  * `Json.Restated j j'`: `j'` says what `j` says. `Json.Restated.refl`: so does `j` itself.
  * `Members.Holds`: what is found under a name says what a value says.
  * `Json.Restated.exists_holdsAll`: an object that says the same holds all that was written.
-/
import Mathlib.Data.List.Nodup
import ExitBridge.Wire.Basic

namespace ExitBridge

namespace Json

/-- A value that holds no others. -/
def IsScalar : Json → Prop
  | array _ | object _ => False
  | _ => True

mutual

/-- Another value says what a value says. -/
inductive Restated : Json → Json → Prop
  | scalar {j : Json} (scalar : j.IsScalar) : Restated j j
  | array {items items' : List Json} (each : EachRestated items items') :
      Restated (.array items) (.array items')
  | object {ms core others ms' : Members} (each : MembersRestated ms core)
      (apart : ∀ m ∈ others, m.1 ∉ ms.map (·.1)) (order : ms'.Perm (core ++ others)) :
      Restated (.object ms) (.object ms')

/-- Other items say what items say, one by one. -/
inductive EachRestated : List Json → List Json → Prop
  | nil : EachRestated [] []
  | cons {j j' : Json} {items items' : List Json} (first : Restated j j')
      (rest : EachRestated items items') : EachRestated (j :: items) (j' :: items')

/-- Members of the same names say what members say, one by one. -/
inductive MembersRestated : Members → Members → Prop
  | nil : MembersRestated [] []
  | cons {name : String} {j j' : Json} {ms ms' : Members} (first : Restated j j')
      (rest : MembersRestated ms ms') : MembersRestated ((name, j) :: ms) ((name, j') :: ms')

end

mutual

theorem Restated.refl : ∀ j : Json, j.Restated j
  | .null => .scalar trivial
  | .bool _ => .scalar trivial
  | .integer _ => .scalar trivial
  | .decimal _ => .scalar trivial
  | .string _ => .scalar trivial
  | .array items => .array (EachRestated.refl items)
  | .object ms => @Restated.object ms ms [] ms (MembersRestated.refl ms) nofun (by simp)

theorem EachRestated.refl : ∀ items : List Json, EachRestated items items
  | [] => .nil
  | j :: items => .cons (Restated.refl j) (EachRestated.refl items)

theorem MembersRestated.refl : ∀ ms : Members, MembersRestated ms ms
  | [] => .nil
  | (_, j) :: ms => .cons (Restated.refl j) (MembersRestated.refl ms)

end

/-- A scalar is only said by itself. -/
theorem Restated.eq_of_isScalar {j j' : Json} (h : j.Restated j') (scalar : j.IsScalar) :
    j' = j := by
  cases h with
  | scalar => rfl
  | array => exact scalar.elim
  | object => exact scalar.elim

theorem Restated.eq_null {j : Json} (h : j.Restated .null) : j = .null := by
  cases h
  rfl

theorem MembersRestated.names {ms ms' : Members} (h : MembersRestated ms ms') :
    ms'.map (·.1) = ms.map (·.1) := by
  induction ms generalizing ms' with
  | nil =>
    cases h
    rfl
  | cons m ms ih =>
    cases h with
    | cons first rest => exact congrArg (_ :: ·) (ih rest)

theorem MembersRestated.exists_mem {ms ms' : Members} {name : String} {j : Json}
    (h : MembersRestated ms ms') (mem : (name, j) ∈ ms) :
    ∃ j', j.Restated j' ∧ (name, j') ∈ ms' := by
  induction ms generalizing ms' with
  | nil => cases mem
  | cons m ms ih =>
    cases h with
    | cons first rest =>
      rcases List.mem_cons.1 mem with same | mem
      · cases same
        exact ⟨_, first, List.mem_cons_self⟩
      · obtain ⟨j', restated, mem'⟩ := ih rest mem
        exact ⟨j', restated, List.mem_cons_of_mem _ mem'⟩

end Json

namespace Members

variable {ms ms' written more : Members} {name : String} {j : Json}

/-- What is found under a name says what a value says. -/
def Holds (ms : Members) (name : String) (j : Json) : Prop :=
  ∃ j', ms.find? name = some (some j') ∧ j.Restated j'

/-- Every member that was written is held. -/
def HoldsAll (ms written : Members) : Prop :=
  ∀ name j, (name, j) ∈ written → ms.Holds name j

theorem holdsAll_cons :
    ms.HoldsAll ((name, j) :: written) ↔ ms.Holds name j ∧ ms.HoldsAll written := by
  simp only [HoldsAll, List.mem_cons, Prod.mk.injEq]
  constructor
  · intro h
    exact ⟨h name j (.inl ⟨rfl, rfl⟩), fun name' j' mem => h name' j' (.inr mem)⟩
  · rintro ⟨first, rest⟩ name' j' (⟨rfl, rfl⟩ | mem)
    · exact first
    · exact rest name' j' mem

theorem filter_of_nodup (nodup : (ms.map (·.1)).Nodup) (mem : (name, j) ∈ ms) :
    ms.filter (·.1 == name) = [(name, j)] := by
  induction ms with
  | nil => cases mem
  | cons m ms ih =>
    rw [List.map_cons, List.nodup_cons] at nodup
    obtain ⟨fresh, nodup⟩ := nodup
    rcases List.mem_cons.1 mem with rfl | mem
    · have none : ms.filter (·.1 == name) = [] := by
        rw [List.filter_eq_nil_iff]
        intro m hm same
        rw [beq_iff_eq] at same
        exact fresh (List.mem_map.2 ⟨m, hm, same⟩)
      rw [List.filter_cons, if_pos (beq_self_eq_true name), none]
    · have other : ¬(m.1 == name) = true := by
        rw [beq_iff_eq]
        rintro rfl
        exact fresh (List.mem_map.2 ⟨_, mem, rfl⟩)
      rw [List.filter_cons, if_neg other, ih nodup mem]

theorem find?_of_perm {others : Members} (order : ms'.Perm (ms ++ others))
    (nodup : (ms.map (·.1)).Nodup) (mem : (name, j) ∈ ms) (apart : ∀ m ∈ others, m.1 ≠ name) :
    ms'.find? name = some (some j) := by
  have none : others.filter (·.1 == name) = [] := by
    rw [List.filter_eq_nil_iff]
    intro m hm same
    exact apart m hm (beq_iff_eq.1 same)
  have one : ms'.filter (·.1 == name) = [(name, j)] := by
    rw [← List.perm_singleton, ← filter_of_nodup nodup mem]
    have filtered := order.filter (·.1 == name)
    rwa [List.filter_append, none, List.append_nil] at filtered
  rw [find?, one]

end Members

/-- An object that says the same holds every member, if their names are different. -/
theorem Json.Restated.exists_holdsAll {ms : Members} {j : Json}
    (h : Json.Restated (.object ms) j) (nodup : (ms.map (·.1)).Nodup) :
    ∃ ms' : Members, j = .object ms' ∧ ms'.HoldsAll ms := by
  cases h with
  | scalar scalar => exact scalar.elim
  | @object _ core others ms' each apart order =>
    refine ⟨ms', rfl, fun name j mem => ?_⟩
    obtain ⟨j', restated, mem'⟩ := each.exists_mem mem
    refine ⟨j', Members.find?_of_perm order (each.names ▸ nodup) mem' ?_, restated⟩
    rintro m hm rfl
    exact apart m hm (List.mem_map.2 ⟨_, mem, rfl⟩)

end ExitBridge
