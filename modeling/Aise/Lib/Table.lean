import Mathlib.Data.List.Nodup

/-! Statements on the rows of a table that count the rows they affect. -/
namespace SqlTable
variable {R : Type*}

/-- `UPDATE … SET … WHERE`. -/
def update (rows : List R) (here : R → Bool) (set : R → R) : List R × Nat :=
  (rows.map fun row => if here row then set row else row, rows.countP here)

/-- `DELETE … WHERE`. -/
def delete (rows : List R) (here : R → Bool) : List R × Nat :=
  (rows.filter fun row => !here row, rows.countP here)

variable {rows : List R} {here : R → Bool} {set : R → R}

/-- A statement that affects one row affects the one that was found. -/
theorem eq_of_countP (one : rows.countP here = 1) {first second : R} (firstIn : first ∈ rows)
    (secondIn : second ∈ rows) (firstHere : here first = true) (secondHere : here second = true) :
    first = second := by
  rw [List.countP_eq_length_filter] at one
  obtain ⟨only, found⟩ := List.length_eq_one_iff.mp one
  have among := List.mem_filter.mpr ⟨firstIn, firstHere⟩
  have too := List.mem_filter.mpr ⟨secondIn, secondHere⟩
  rw [found, List.mem_singleton] at among too
  exact among.trans too.symm

/-- Rows that have different keys are affected one at a time. -/
theorem countP_eq_one {K : Type*} {key : R → K} (distinct : (rows.map key).Nodup) {row : R}
    (member : row ∈ rows) (affected : here row = true)
    (keyed : ∀ other ∈ rows, here other = true → key other = key row) : rows.countP here = 1 := by
  have only : rows.filter here = [row] := by
    have nodup : (rows.filter here).Nodup := (List.Nodup.of_map key distinct).filter here
    have among : ∀ other, other ∈ rows.filter here ↔ other ∈ [row] := by
      intro other
      rw [List.mem_filter, List.mem_singleton]
      constructor
      · rintro ⟨inside, too⟩
        exact List.inj_on_of_nodup_map distinct inside member (keyed other inside too)
      · rintro rfl
        exact ⟨member, affected⟩
    exact List.perm_singleton.mp
      ((List.perm_ext_iff_of_nodup nodup (List.nodup_singleton row)).mpr among)
  rw [List.countP_eq_length_filter, only, List.length_singleton]

theorem map_update {K : Type*} {key : R → K} (stays : ∀ row ∈ rows, key (set row) = key row) :
    (update rows here set).1.map key = rows.map key := by
  rw [update, List.map_map]
  refine List.map_congr_left fun row member => ?_
  dsimp only [Function.comp_apply]
  split
  · exact stays row member
  · rfl

theorem mem_update_of_not {row : R} (member : row ∈ rows) (apart : here row = false) :
    row ∈ (update rows here set).1 :=
  List.mem_map.mpr ⟨row, member, if_neg (Bool.eq_false_iff.mp apart)⟩

theorem set_mem_update {row : R} (member : row ∈ rows) (affected : here row = true) :
    set row ∈ (update rows here set).1 :=
  List.mem_map.mpr ⟨row, member, if_pos affected⟩

/-- Every row is an affected one with its new columns, or one that was there. -/
theorem mem_update {row : R} (member : row ∈ (update rows here set).1) :
    (∃ old ∈ rows, here old = true ∧ row = set old) ∨ row ∈ rows ∧ here row = false := by
  obtain ⟨old, among, same⟩ := List.mem_map.mp member
  split at same
  · rename_i affected
    exact .inl ⟨old, among, affected, same.symm⟩
  · rename_i untouched
    subst same
    exact .inr ⟨among, Bool.eq_false_iff.mpr untouched⟩

end SqlTable
