import Std.Data.ExtTreeMap
import Std.Data.ExtTreeSet
import Mathlib.Data.List.Induction
import Mathlib.Data.List.Nodup
import Mathlib.Data.List.Perm.Subperm
import Mathlib.Order.Compare

/-! Reading an ordered map after a write, for key orders where equal comparison is
equality. `Std` states these laws through `compare`; here the keys are compared by
`=`, which is the form every model of a keyed store needs. -/
namespace OrdMap
open Std
variable {K V : Type*} [Ord K] [TransOrd K] [LawfulEqOrd K] [DecidableEq K]
  {map : ExtTreeMap K V}

theorem get_insert (key other : K) (value : V) :
    (map.insert key value)[other]? = if key = other then some value else map[other]? := by
  by_cases same : key = other
  · subst other
    simp
  · simp [ExtTreeMap.getElem?_insert, same]

theorem get_erase (key other : K) :
    (map.erase key)[other]? = if key = other then none else map[other]? := by
  by_cases same : key = other
  · subst other
    simp
  · simp [ExtTreeMap.getElem?_erase, same]

theorem get_modify (key other : K) (change : V → V) :
    (map.modify key change)[other]? =
      if key = other then map[other]?.map change else map[other]? := by
  by_cases same : key = other
  · subst other
    simp
  · simp [ExtTreeMap.getElem?_modify, same]

omit [DecidableEq K] in
/-- Writing back what was read changes nothing. -/
theorem insert_get {key : K} {value : V} (found : map[key]? = some value) :
    map.insert key value = map := by
  classical
  apply ExtTreeMap.ext_getElem?
  intro other
  rw [get_insert]
  split
  · rename_i same
    rw [← same, found]
  · rfl

omit [DecidableEq K] [LawfulEqOrd K] in
theorem mem_iff_exists {key : K} : key ∈ map ↔ ∃ value, map[key]? = some value := by
  rw [ExtTreeMap.mem_iff_isSome_getElem?, Option.isSome_iff_exists]

omit [DecidableEq K] [LawfulEqOrd K] in
theorem size_insert_fresh {key : K} {value : V} (fresh : map[key]? = none) :
    (map.insert key value).size = map.size + 1 := by
  rw [ExtTreeMap.size_insert, if_neg]
  simp [ExtTreeMap.contains_eq_isSome_getElem?, fresh]

omit [DecidableEq K] [LawfulEqOrd K] in
theorem size_insert_known {key : K} {old : V} (found : map[key]? = some old) (value : V) :
    (map.insert key value).size = map.size := by
  rw [ExtTreeMap.size_insert, if_pos]
  simp [ExtTreeMap.contains_eq_isSome_getElem?, found]

omit [DecidableEq K] in
/-- A map has room for every key that is told apart in it. -/
theorem le_size_of_injOn {key : Nat → K} {count : Nat} (member : ∀ i < count, key i ∈ map)
    (distinct : ∀ i < count, ∀ j < count, key i = key j → i = j) : count ≤ map.size := by
  have nodup : ((List.range count).map key).Nodup :=
    List.nodup_range.map_on fun i inside j insideToo same =>
      distinct i (List.mem_range.mp inside) j (List.mem_range.mp insideToo) same
  have among : (List.range count).map key ⊆ map.keys := by
    intro name named
    obtain ⟨i, inside, rfl⟩ := List.mem_map.mp named
    exact ExtTreeMap.mem_keys.mpr (member i (List.mem_range.mp inside))
  have fewer := (nodup.subperm among).length_le
  rwa [List.length_map, List.length_range, ExtTreeMap.length_keys] at fewer

omit [DecidableEq K] [LawfulEqOrd K] in
theorem contains_eq_false_iff {key : K} : map.contains key = false ↔ key ∉ map := by
  rw [← Bool.not_eq_true, ExtTreeMap.contains_iff_mem]

omit [DecidableEq K] [LawfulEqOrd K] in
theorem set_contains_eq_false_iff {set : ExtTreeSet K} {key : K} :
    set.contains key = false ↔ key ∉ set := by
  rw [← Bool.not_eq_true, ExtTreeSet.contains_iff_mem]

omit [DecidableEq K] in
theorem set_mem_insert {set : ExtTreeSet K} (key other : K) :
    other ∈ set.insert key ↔ key = other ∨ other ∈ set := by
  simp [ExtTreeSet.mem_insert]

omit [DecidableEq K] in
theorem set_mem_erase {set : ExtTreeSet K} (key other : K) :
    other ∈ set.erase key ↔ key ≠ other ∧ other ∈ set := by
  simp [ExtTreeSet.mem_erase]

section
variable {α : Type*} (key : α → K)

theorem get_eraseAll (items : List α) (other : K) :
    (items.foldl (fun map item => map.erase (key item)) map)[other]? =
      if other ∈ items.map key then none else map[other]? := by
  induction items generalizing map with
  | nil => simp
  | cons item items ih =>
    rw [List.foldl_cons, ih, get_erase]
    by_cases here : key item = other
    · simp [here]
    · simp [here, Ne.symm here]

omit [DecidableEq K] in
theorem set_mem_insertAll {set : ExtTreeSet K} (items : List α) (other : K) :
    other ∈ items.foldl (fun set item => set.insert (key item)) set ↔
      other ∈ items.map key ∨ other ∈ set := by
  induction items generalizing set with
  | nil => simp
  | cons item items ih =>
    rw [List.foldl_cons, ih, set_mem_insert, List.map_cons, List.mem_cons]
    constructor
    · rintro (later | here | before)
      · exact .inl (.inr later)
      · exact .inl (.inl here.symm)
      · exact .inr before
    · rintro ((here | later) | before)
      · exact .inr (.inl here.symm)
      · exact .inl later
      · exact .inr (.inr before)

omit [DecidableEq K] in
theorem set_mem_eraseAll {set : ExtTreeSet K} (items : List α) (other : K) :
    other ∈ items.foldl (fun set item => set.erase (key item)) set ↔
      other ∉ items.map key ∧ other ∈ set := by
  induction items generalizing set with
  | nil => simp
  | cons item items ih =>
    rw [List.foldl_cons, ih, set_mem_erase, List.map_cons, List.mem_cons, not_or]
    constructor
    · rintro ⟨later, here, before⟩
      exact ⟨⟨Ne.symm here, later⟩, before⟩
    · rintro ⟨⟨here, later⟩, before⟩
      exact ⟨later, Ne.symm here, before⟩

/-- The entries of a key, among all. -/
theorem filter_toList (map : ExtTreeMap K V) (key : K) :
    map.toList.filter (·.1 = key) = (map[key]?).toList.map (key, ·) := by
  classical
  cases found : map[key]? with
  | none =>
    rw [Option.toList_none, List.map_nil, List.filter_eq_nil_iff]
    intro entry member same
    have stored := ExtTreeMap.mem_toList_iff_getElem?_eq_some.mp member
    rw [of_decide_eq_true same, found] at stored
    cases stored
  | some value =>
    have once : map.toList.Nodup := List.Nodup.of_map Prod.fst (by
      rw [ExtTreeMap.map_fst_toList_eq_keys]
      exact ExtTreeMap.nodup_keys)
    have among : (key, value) ∈ map.toList := ExtTreeMap.mem_toList_iff_getElem?_eq_some.mpr found
    have alone : ∀ entry ∈ map.toList, decide (entry.1 = key) = (entry == (key, value)) := by
      intro entry member
      rw [Bool.eq_iff_iff, decide_eq_true_iff, beq_iff_eq]
      constructor
      · rintro rfl
        have stored := ExtTreeMap.mem_toList_iff_getElem?_eq_some.mp member
        exact Prod.ext rfl (Option.some.inj (stored.symm.trans found))
      · rintro rfl
        rfl
    rw [List.filter_congr alone, List.filter_beq, once.count, if_pos among]
    rfl

/-- What is stored once a list of values is inserted under their own keys. -/
theorem get_insertAll (key : V → K) (values : List V) {other : K} {value : V}
    (found : (values.foldl (fun map value => map.insert (key value) value) map)[other]? =
      some value) :
    value ∈ values ∧ key value = other ∨ other ∉ values.map key ∧ map[other]? = some value := by
  induction values generalizing map with
  | nil => exact .inr ⟨List.not_mem_nil, found⟩
  | cons first rest ih =>
    rcases ih found with ⟨member, here⟩ | ⟨absent, stored⟩
    · exact .inl ⟨List.mem_cons_of_mem _ member, here⟩
    · rw [get_insert] at stored
      split at stored
      · rename_i here
        cases stored
        exact .inl ⟨List.mem_cons_self, here⟩
      · rename_i different
        refine .inr ⟨?_, stored⟩
        rw [List.map_cons, List.mem_cons, not_or]
        exact ⟨Ne.symm different, absent⟩

theorem get_insertAll_of_not_mem (key : V → K) (values : List V) {other : K}
    (absent : other ∉ values.map key) :
    (values.foldl (fun map value => map.insert (key value) value) map)[other]? = map[other]? := by
  induction values generalizing map with
  | nil => rfl
  | cons first rest ih =>
    rw [List.map_cons, List.mem_cons, not_or] at absent
    rw [List.foldl_cons, ih absent.2, get_insert, if_neg (Ne.symm absent.1)]

omit [DecidableEq K] in
theorem mem_insertAll (key : V → K) (values : List V) (other : K) :
    other ∈ values.foldl (fun map value => map.insert (key value) value) map ↔
      other ∈ values.map key ∨ other ∈ map := by
  induction values generalizing map with
  | nil => simp
  | cons first rest ih =>
    rw [List.foldl_cons, ih, ExtTreeMap.mem_insert, Std.compare_eq_iff_eq, List.map_cons, List.mem_cons]
    constructor
    · rintro (later | here | before)
      · exact .inl (.inr later)
      · exact .inl (.inl here.symm)
      · exact .inr before
    · rintro ((here | later) | before)
      · exact .inr (.inl here.symm)
      · exact .inl later
      · exact .inr (.inr before)

/-- What is stored of an item that no other one shares its key with. -/
theorem get_insertEach {α : Type*} (key : α → K) (value : α → V) {items : List α}
    (apart : ∀ first ∈ items, ∀ second ∈ items, key first = key second → first = second) {item : α}
    (member : item ∈ items) :
    (items.foldl (fun map item => map.insert (key item) (value item)) map)[key item]? =
      some (value item) := by
  induction items using List.reverseRecOn with
  | nil => cases member
  | append_singleton before last ih =>
    rw [List.foldl_append, List.foldl_cons, List.foldl_nil, get_insert]
    have among : last ∈ before ++ [last] := List.mem_append_right _ (List.mem_singleton.mpr rfl)
    split
    · rename_i same
      rw [apart last among item member same]
    · rename_i different
      rcases List.mem_append.mp member with earlier | here
      · exact ih (fun first one second two => apart first (List.mem_append_left _ one) second
          (List.mem_append_left _ two)) earlier
      · rw [List.mem_singleton.mp here] at different
        exact absurd rfl different

/-- Values that are told apart by their keys are all stored. -/
theorem get_insertAll_distinct (key : V → K) {values : List V} (distinct : (values.map key).Nodup)
    {other : K} {value : V} :
    (values.foldl (fun map value => map.insert (key value) value) (∅ : ExtTreeMap K V))[other]? = some value ↔
      value ∈ values ∧ key value = other := by
  constructor
  · intro found
    rcases get_insertAll key values found with stored | ⟨_, before⟩
    · exact stored
    · rw [ExtTreeMap.getElem?_empty] at before
      cases before
  · rintro ⟨member, rfl⟩
    have inserted : key value ∈
        values.foldl (fun map value => map.insert (key value) value) (∅ : ExtTreeMap K V) :=
      (mem_insertAll key values (key value)).mpr (.inl (List.mem_map_of_mem member))
    obtain ⟨held, found⟩ := mem_iff_exists.mp inserted
    rcases get_insertAll key values found with ⟨among, same⟩ | ⟨absent, _⟩
    · rw [found, List.inj_on_of_nodup_map distinct among member same]
    · exact absurd (List.mem_map_of_mem member) absent

theorem insertAll_perm (key : V → K) {values others : List V} (distinct : (values.map key).Nodup)
    (perm : values.Perm others) :
    values.foldl (fun map value => map.insert (key value) value) (∅ : ExtTreeMap K V) =
      others.foldl (fun map value => map.insert (key value) value) ∅ := by
  apply ExtTreeMap.ext_getElem?
  intro other
  apply Option.ext
  intro value
  rw [get_insertAll_distinct key distinct, get_insertAll_distinct key ((perm.map key).nodup_iff.mp distinct),
    perm.mem_iff]

end

end OrdMap
