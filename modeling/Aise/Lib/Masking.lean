import Aise.Lib.OrdMap
import Aise.Lib.Distinct

/-! What a computation can tell apart. A mask hides part of a state. A computation is
blind to what the mask hides when hiding it first changes nothing, and then it answers
alike on all states that look alike under the mask. -/
namespace Masking

section Blind
variable {S A B C E : Type} {mask : S → S}

def Blind (mask : S → S) (run : S → A) : Prop := ∀ state, run (mask state) = run state

theorem Blind.agree {run : S → A} (blind : Blind mask run) {first second : S}
    (alike : mask first = mask second) : run first = run second := by
  rw [← blind first, alike, blind second]

/-- Whatever is made of a blind answer is blind. -/
theorem Blind.map {run : S → A} (blind : Blind mask run) (change : A → B) :
    Blind mask fun state => change (run state) :=
  fun state => congrArg change (blind state)

theorem Blind.bind {run : S → Except E A} {next : S → A → Except E B} (blind : Blind mask run)
    (later : ∀ value, Blind mask (next · value)) :
    Blind mask fun state => run state >>= next state := by
  intro state
  dsimp only
  rw [blind state]
  cases run state with
  | error _ => rfl
  | ok value => exact later value state

/-- A check may look at what is hidden, as long as only its verdict is used. -/
theorem Blind.check_bind {run : S → Except E A} {next : S → Except E B}
    (blind : Blind mask fun state => Result.verdict (run state)) (later : Blind mask next) :
    Blind mask fun state => run state >>= fun _ => next state := by
  intro state
  dsimp only
  rw [Result.bind_eq_verdict (run (mask state)), Result.bind_eq_verdict (run state)]
  exact Blind.bind blind (fun _ => later) state

/-- A loop that refuses repeated keys shows no more than its checks do. -/
theorem Blind.distinct {K α β : Type} {key : α → K} [DecidableEq K]
    {before : α → Except E Unit} {repeated : α → E} {check : S → α → Except E β}
    (blind : ∀ item, Blind mask fun state => Result.verdict (check state item))
    (items : List α) (seen : List K) :
    Blind mask fun state =>
      Result.verdict (Distinct.each key before repeated (check state) seen items) :=
  fun state => Distinct.verdict_each (fun item => blind item state) items seen

end Blind

section Keyed
open Std
variable {K V A : Type*} [Ord K] [TransOrd K] [LawfulEqOrd K] [DecidableEq K]
  {target : K} {hide : V → V} {map other : ExtTreeMap K V}

/-- Every value but one with its private part hidden. -/
def hideOthers (target : K) (hide : V → V) (map : ExtTreeMap K V) : ExtTreeMap K V :=
  map.map fun key value => if key = target then value else hide value

theorem get_hideOthers (key : K) :
    (hideOthers target hide map)[key]? =
      map[key]?.map fun value => if key = target then value else hide value := by
  rw [hideOthers, ExtTreeMap.getElem?_map]

theorem get_target : (hideOthers target hide map)[target]? = map[target]? := by
  simp [get_hideOthers]

/-- What hiding leaves alone can be read at every key. -/
theorem get_shown {shown : V → A} (untouched : ∀ value, shown (hide value) = shown value) (key : K) :
    (hideOthers target hide map)[key]?.map shown = map[key]?.map shown := by
  rw [get_hideOthers, Option.map_map]
  congr 1
  funext value
  dsimp only [Function.comp]
  split
  · rfl
  · exact untouched value

/-- Two maps look alike when they agree at the target and, up to what is hidden, at every
other key. -/
theorem hideOthers_eq_iff :
    hideOthers target hide map = hideOthers target hide other ↔
      map[target]? = other[target]? ∧
        ∀ key, key ≠ target → map[key]?.map hide = other[key]?.map hide := by
  constructor
  · intro alike
    refine ⟨?_, fun key apart => ?_⟩
    · have same := congrArg (·[target]?) alike
      simpa only [get_target] using same
    · have same := congrArg (·[key]?) alike
      simpa only [get_hideOthers, if_neg apart] using same
  · rintro ⟨atTarget, elsewhere⟩
    apply ExtTreeMap.ext_getElem?
    intro key
    rw [get_hideOthers, get_hideOthers]
    by_cases here : key = target
    · subst here
      rw [atTarget]
    · simpa only [if_neg here] using elsewhere key here

end Keyed
end Masking
