import Mathlib.Data.List.Nodup
import Mathlib.Data.List.Infix

/-! An append-only journal of keyed, consecutively numbered entries. Its index
finds an entry by key; its recent window is a suffix, cut only at the front. The
facts are stated for the whole log, so that a store which keeps just the index and
the window can be compared with it. -/
namespace Journal
variable {E K : Type*} {key : E → K} {number : E → Nat} {log : List E}

/-- Distinct keys, and numbers 1, 2, 3, ... in order of arrival. -/
structure WellFormed (key : E → K) (number : E → Nat) (log : List E) : Prop where
  keys : (log.map key).Nodup
  numbers : log.map number = List.range' 1 log.length

theorem WellFormed.nil : WellFormed key number ([] : List E) := ⟨by simp, by simp⟩

theorem WellFormed.snoc (formed : WellFormed key number log) (fresh : key e ∉ log.map key)
    (next : number e = log.length + 1) : WellFormed key number (log ++ [e]) := by
  constructor
  · rw [List.map_append, List.map_singleton]
    refine List.nodup_append.mpr ⟨formed.keys, by simp, ?_⟩
    intro earlier logged last singleton same
    rw [List.mem_singleton.mp singleton] at same
    exact fresh (same ▸ logged)
  · rw [List.map_append, formed.numbers, List.length_append, List.length_singleton,
      List.range'_concat, List.map_singleton, next]
    simp [Nat.add_comm]

theorem WellFormed.number_get (formed : WellFormed key number log) (bound : i < log.length) :
    number log[i] = i + 1 := by
  have at_i := congrArg (fun ns : List Nat => ns[i]?) formed.numbers
  simpa [List.getElem?_range', bound, Nat.add_comm] using at_i

theorem WellFormed.number_drop (formed : WellFormed key number log)
    (found : (log.drop front)[i]? = some e) : number e = front + i + 1 := by
  rw [List.getElem?_drop] at found
  obtain ⟨bound, rfl⟩ := List.getElem?_eq_some_iff.mp found
  exact formed.number_get bound

theorem WellFormed.number_bounds (formed : WellFormed key number log) (member : e ∈ log) :
    1 ≤ number e ∧ number e ≤ log.length := by
  obtain ⟨i, bound, rfl⟩ := List.getElem_of_mem member
  have := formed.number_get bound
  omega

theorem WellFormed.number_injective (formed : WellFormed key number log) (left : a ∈ log)
    (right : b ∈ log) (same : number a = number b) : a = b := by
  obtain ⟨i, hi, rfl⟩ := List.getElem_of_mem left
  obtain ⟨j, hj, rfl⟩ := List.getElem_of_mem right
  rw [formed.number_get hi, formed.number_get hj] at same
  have : i = j := by omega
  subst j
  rfl

/-- Every number up to the length belongs to exactly one entry. -/
theorem WellFormed.existsUnique_number (formed : WellFormed key number log) (positive : 1 ≤ n)
    (bound : n ≤ log.length) : ∃! e, e ∈ log ∧ number e = n := by
  have inside : n - 1 < log.length := by omega
  refine ⟨log[n - 1], ⟨List.getElem_mem inside, ?_⟩, ?_⟩
  · rw [formed.number_get inside]
    omega
  · rintro e ⟨member, numbered⟩
    apply formed.number_injective member (List.getElem_mem inside)
    rw [formed.number_get inside]
    omega

/-- A lookup that returns exactly the logged entries, each under its own key. -/
def Indexes (key : E → K) (index : K → Option E) (log : List E) : Prop :=
  ∀ k e, index k = some e ↔ e ∈ log ∧ key e = k

theorem Indexes.none_iff {index : K → Option E} (indexes : Indexes key index log) :
    index k = none ↔ k ∉ log.map key := by
  constructor
  · intro absent member
    obtain ⟨e, logged, rfl⟩ := List.mem_map.mp member
    simp [(indexes _ e).mpr ⟨logged, rfl⟩] at absent
  · intro absent
    cases found : index k with
    | none => rfl
    | some e =>
      obtain ⟨logged, rfl⟩ := (indexes k e).mp found
      exact absurd (List.mem_map_of_mem logged) absent

theorem Indexes.snoc [DecidableEq K] {index : K → Option E} (indexes : Indexes key index log)
    (fresh : index (key e) = none) :
    Indexes key (fun k => if key e = k then some e else index k) (log ++ [e]) := by
  intro k other
  by_cases same : key e = k
  · subst k
    simp only [if_true, Option.some.injEq, List.mem_append, List.mem_singleton]
    constructor
    · rintro rfl
      exact ⟨.inr rfl, rfl⟩
    · rintro ⟨logged | rfl, keyed⟩
      · exact absurd (keyed ▸ List.mem_map_of_mem logged) (indexes.none_iff.mp fresh)
      · rfl
  · simp only [same, if_false, List.mem_append, List.mem_singleton, indexes k other]
    constructor
    · rintro ⟨logged, keyed⟩
      exact ⟨.inl logged, keyed⟩
    · rintro ⟨logged | rfl, keyed⟩
      · exact ⟨logged, keyed⟩
      · exact absurd keyed same

/-- A window is numbered consecutively up to the length of the log. -/
theorem WellFormed.window_numbers (formed : WellFormed key number log)
    (window : recent <:+ log) :
    recent.map number = List.range' (log.length - recent.length + 1) recent.length := by
  obtain ⟨front, rfl⟩ := window
  have numbers := formed.numbers
  rw [List.map_append, List.length_append, List.range'_append_1.symm] at numbers
  have := (List.append_inj numbers (by simp)).2
  rw [this, List.length_append]
  congr 1
  omega

/-- Dropping covered entries moves the start of a window to the cover, never back. -/
theorem WellFormed.dropWhile_covered (formed : WellFormed key number log) (front covered : Nat) :
    (log.drop front).dropWhile (fun e => number e ≤ covered) = log.drop (max front covered) := by
  induction rest : log.length - front generalizing front with
  | zero =>
    rw [List.drop_eq_nil_of_le (by omega), List.drop_eq_nil_of_le (by omega)]
    rfl
  | succ n ih =>
    have inside : front < log.length := by omega
    have numbered := formed.number_get inside
    rw [List.drop_eq_getElem_cons inside]
    by_cases first : front + 1 ≤ covered
    · rw [List.dropWhile_cons_of_pos (by simpa [numbered] using first), ih _ (by omega)]
      congr 1
      omega
    · rw [List.dropWhile_cons_of_neg (by simpa [numbered] using first),
        ← List.drop_eq_getElem_cons inside, max_eq_left (by omega)]

theorem WellFormed.map_iff {F : Type*} {f : F → E} {entries : List F} :
    WellFormed key number (entries.map f) ↔
      WellFormed (fun e => key (f e)) (fun e => number (f e)) entries := by
  constructor
  · rintro ⟨keys, numbers⟩
    exact ⟨by simpa [Function.comp_def] using keys, by simpa [Function.comp_def] using numbers⟩
  · rintro ⟨keys, numbers⟩
    exact ⟨by simpa [Function.comp_def] using keys, by simpa [Function.comp_def] using numbers⟩

end Journal
