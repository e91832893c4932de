import Std.Data.String.ToNat
import Mathlib.Data.List.Basic

/-! Texts made of fields with colons between them. A field without a colon can be told from what
stands before it, so such a text says what its last fields are, and what its first ones are. -/
namespace Label

theorem append_cons_inj {α : Type} {separator : α} {front other field last : List α}
    (plain : separator ∉ field) (plainToo : separator ∉ last)
    (same : front ++ separator :: field = other ++ separator :: last) :
    front = other ∧ field = last := by
  rcases List.append_eq_append_iff.mp same with ⟨between, rfl, rest⟩ | ⟨between, rfl, rest⟩
  · cases between with
    | nil => exact ⟨(List.append_nil _).symm, (List.cons.inj rest).2⟩
    | cons first between =>
      rw [List.cons_append] at rest
      exact absurd ((List.cons.inj rest).2 ▸ List.mem_append_right _ List.mem_cons_self) plain
  · cases between with
    | nil => exact ⟨List.append_nil _, (List.cons.inj rest).2.symm⟩
    | cons first between =>
      rw [List.cons_append] at rest
      exact absurd ((List.cons.inj rest).2 ▸ List.mem_append_right _ List.mem_cons_self) plainToo

theorem cons_append_inj {α : Type} {separator : α} {front other rest last : List α}
    (plain : separator ∉ front) (plainToo : separator ∉ other)
    (same : front ++ separator :: rest = other ++ separator :: last) : front = other ∧ rest = last := by
  rcases List.append_eq_append_iff.mp same with ⟨between, rfl, after⟩ | ⟨between, rfl, after⟩
  · cases between with
    | nil => exact ⟨(List.append_nil _).symm, (List.cons.inj after).2⟩
    | cons first between =>
      rw [List.cons_append] at after
      exact absurd (List.mem_append_right _ ((List.cons.inj after).1 ▸ List.mem_cons_self)) plainToo
  · cases between with
    | nil => exact ⟨List.append_nil _, (List.cons.inj after).2.symm⟩
    | cons first between =>
      rw [List.cons_append] at after
      exact absurd (List.mem_append_right _ ((List.cons.inj after).1 ▸ List.mem_cons_self)) plain

/-- A text has no colon. -/
def Plain (text : String) : Prop := ':' ∉ text.toList

instance (text : String) : Decidable (Plain text) := inferInstanceAs (Decidable (_ ∉ _))

theorem plain_repr (number : Nat) : Plain (Nat.repr number) := by
  intro member
  rw [Nat.repr, String.toList_ofList] at member
  have digit := Nat.isDigit_of_mem_toDigits (by decide) (by decide) member
  exact absurd digit (by decide)

theorem inj {front other field last : String} (plain : Plain field) (plainToo : Plain last)
    (same : front ++ ":" ++ field = other ++ ":" ++ last) : front = other ∧ field = last := by
  have chars := congrArg String.toList same
  simp only [String.toList_append] at chars
  have colon : ":".toList = [':'] := rfl
  rw [colon, List.append_assoc, List.append_assoc, List.singleton_append, List.singleton_append]
    at chars
  obtain ⟨fronts, fields⟩ := append_cons_inj plain plainToo chars
  exact ⟨String.toList_injective fronts, String.toList_injective fields⟩

/-- The last field is a number. -/
theorem inj_repr {front other : String} {number last : Nat}
    (same : front ++ ":" ++ Nat.repr number = other ++ ":" ++ Nat.repr last) :
    front = other ∧ number = last := by
  obtain ⟨fronts, numbers⟩ := inj (plain_repr number) (plain_repr last) same
  exact ⟨fronts, Nat.repr_injective numbers⟩

/-- The first field, whatever the text goes on with. -/
theorem first_inj {front other rest last : String} (plain : Plain front) (plainToo : Plain other)
    (same : front ++ ":" ++ rest = other ++ ":" ++ last) : front = other ∧ rest = last := by
  have chars := congrArg String.toList same
  simp only [String.toList_append] at chars
  have colon : ":".toList = [':'] := rfl
  rw [colon, List.append_assoc, List.append_assoc, List.singleton_append, List.singleton_append]
    at chars
  obtain ⟨fronts, rests⟩ := cons_append_inj plain plainToo chars
  exact ⟨String.toList_injective fronts, String.toList_injective rests⟩

end Label
