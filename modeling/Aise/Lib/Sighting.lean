import Mathlib.Data.List.Induction
import Mathlib.Data.List.Perm.Basic
import Mathlib.Data.List.Nodup
import Mathlib.Tactic.Common

/-! A record of the first sighting of each pattern. What is recorded piece by piece, skipping the
patterns recorded already, is what a scan of all pieces at once finds, up to its order. -/
namespace Sighting
variable {P F α κ : Type*} [DecidableEq κ] (key : P → κ) (named : α → κ) (hit : P → F → Bool)
  (make : P → F → α)

/-- One pattern against one piece. -/
def record (piece : F) (sightings : List α) (pattern : P) : List α :=
  if sightings.any fun item => named item = key pattern then sightings
  else if hit pattern piece then sightings ++ [make pattern piece] else sightings

/-- All patterns against one piece. -/
def look (patterns : List P) (sightings : List α) (piece : F) : List α :=
  patterns.foldl (record key named hit make piece) sightings

/-- Each pattern that is seen in some piece, with the first of them. -/
def rescan (patterns : List P) (pieces : List F) : List α :=
  patterns.filterMap fun pattern => (pieces.find? (hit pattern)).map (make pattern)

/-- What is recorded of a pattern that is seen in the piece for the first time. -/
def sighted (sightings : List α) (piece : F) (pattern : P) : Option α :=
  if sightings.any fun item => named item = key pattern then none
  else if hit pattern piece then some (make pattern piece) else none

variable {key named hit make} {patterns : List P}

theorem filterMap_or_perm {β : Type*} (first second : P → Option β) (items : List P) :
    (items.filterMap fun item => (first item).or (second item)).Perm
      (items.filterMap first ++
        items.filterMap fun item => if (first item).isSome then none else second item) := by
  induction items with
  | nil => exact .nil
  | cons item rest ih =>
    cases here : first item with
    | some found =>
      simp only [List.filterMap_cons, here, Option.some_or, Option.isSome_some, if_true,
        List.cons_append]
      exact ih.cons found
    | none =>
      cases there : second item with
      | none => simpa [here, there] using ih
      | some found =>
        simp only [List.filterMap_cons, here, there, Option.none_or, Option.isSome_none,
          Bool.false_eq_true, if_false]
        exact (ih.cons found).trans List.perm_middle.symm

section
variable (names : ∀ pattern piece, named (make pattern piece) = key pattern)
  (distinct : (patterns.map key).Nodup)
include names distinct

/-- One piece only adds what it shows for the first time. -/
theorem look_eq (sightings : List α) (piece : F) :
    look key named hit make patterns sightings piece =
      sightings ++ patterns.filterMap (sighted key named hit make sightings piece) := by
  induction patterns generalizing sightings with
  | nil => simp [look]
  | cons pattern rest ih =>
    obtain ⟨fresh, distinct⟩ := List.nodup_cons.mp distinct
    rw [look, List.foldl_cons, ← look, ih distinct]
    by_cases recorded : (sightings.any fun item => named item = key pattern) = true
    · rw [record, if_pos recorded, List.filterMap_cons_none (by rw [sighted, if_pos recorded])]
    · by_cases seen : hit pattern piece = true
      · have first : sighted key named hit make sightings piece pattern =
            some (make pattern piece) := by
          rw [sighted, if_neg recorded, if_pos seen]
        rw [record, if_neg recorded, if_pos seen, List.filterMap_cons_some first,
          List.append_assoc]
        -- the new sighting hides none of the patterns that follow
        have others : ∀ other ∈ rest,
            sighted key named hit make (sightings ++ [make pattern piece]) piece other =
              sighted key named hit make sightings piece other := by
          intro other member
          have apart : key pattern ≠ key other :=
            fun same => fresh (same ▸ List.mem_map_of_mem member)
          simp [sighted, names, apart]
        rw [List.filterMap_congr others]
        rfl
      · rw [record, if_neg recorded, if_neg seen,
          List.filterMap_cons_none (by rw [sighted, if_neg recorded, if_neg seen])]

theorem recorded_iff {pattern : P} (member : pattern ∈ patterns) (pieces : List F) :
    ((rescan hit make patterns pieces).any fun item => named item = key pattern) =
      (pieces.find? (hit pattern)).isSome := by
  rw [Bool.eq_iff_iff, List.any_eq_true]
  constructor
  · rintro ⟨item, listed, same⟩
    obtain ⟨other, inside, found⟩ := List.mem_filterMap.mp listed
    obtain ⟨piece, first, rfl⟩ := Option.map_eq_some_iff.mp found
    have same : key other = key pattern := by simpa [names] using same
    rw [List.inj_on_of_nodup_map distinct inside member same] at first
    rw [first, Option.isSome_some]
  · intro found
    obtain ⟨piece, first⟩ := Option.isSome_iff_exists.mp found
    exact ⟨make pattern piece,
      List.mem_filterMap.mpr ⟨pattern, member, by rw [first, Option.map_some]⟩, by simp [names]⟩

/-- The record kept piece by piece is what a scan of all pieces finds. -/
theorem looks_perm_rescan (pieces : List F) :
    (pieces.foldl (look key named hit make patterns) []).Perm
      (rescan hit make patterns pieces) := by
  induction pieces using List.reverseRecOn with
  | nil => simp [rescan]
  | append_singleton before piece ih =>
    have same : ∀ pattern ∈ patterns,
        sighted key named hit make (before.foldl (look key named hit make patterns) []) piece
          pattern =
        if ((before.find? (hit pattern)).map (make pattern)).isSome then none
        else ([piece].find? (hit pattern)).map (make pattern) := by
      intro pattern member
      rw [sighted, ih.any_eq, recorded_iff names distinct member, Option.isSome_map]
      cases seen : hit pattern piece <;> simp [seen]
    have whole : rescan hit make patterns (before ++ [piece]) =
        patterns.filterMap fun pattern => ((before.find? (hit pattern)).map (make pattern)).or
          (([piece].find? (hit pattern)).map (make pattern)) := by
      refine List.filterMap_congr fun pattern _ => ?_
      rw [List.find?_append, Option.map_or]
    rw [List.foldl_append, List.foldl_cons, List.foldl_nil, look_eq names distinct,
      List.filterMap_congr same, whole]
    exact (ih.append_right _).trans (filterMap_or_perm _ _ _).symm

end

omit [DecidableEq κ] in
/-- As many are found as there are patterns that are seen somewhere. -/
theorem countP_rescan (names : ∀ pattern piece, named (make pattern piece) = key pattern)
    (group : κ → Bool) (pieces : List F) :
    (rescan hit make patterns pieces).countP (fun item => group (named item)) =
      patterns.countP fun pattern => group (key pattern) && pieces.any (hit pattern) := by
  rw [rescan, List.countP_filterMap]
  refine List.countP_congr fun pattern _ => ?_
  have present : pieces.any (hit pattern) = (pieces.find? (hit pattern)).isSome := by
    rw [Bool.eq_iff_iff, List.any_eq_true, List.find?_isSome]
  rw [present]
  cases pieces.find? (hit pattern) <;> simp [names]

end Sighting
