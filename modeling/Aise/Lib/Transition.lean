import Mathlib.Logic.Relation
import Mathlib.Data.List.Induction

/-! Runs of a state machine. A run is the reflexive transitive closure of its step
relation; what one step preserves is lifted to every run here, once. -/
namespace Transition
variable {S T : Type*} {step : S → S → Prop}

abbrev Reaches (step : S → S → Prop) : S → S → Prop := Relation.ReflTransGen step

/-- What every step preserves holds in every state a run reaches. -/
theorem invariant {P : S → Prop} (preserves : ∀ {s t}, P s → step s t → P t)
    (run : Reaches step s t) (initial : P s) : P t := by
  induction run with
  | refl => exact initial
  | tail _ last ih => exact preserves ih last

/-- A component that each step keeps, changed only along a preorder, is still there
after a run, and has only been changed along it. -/
theorem follow (component : S → Option T) {R : T → T → Prop}
    (refl : ∀ x, R x x) (trans : ∀ {x y z}, R x y → R y z → R x z)
    (keeps : ∀ {s t x}, step s t → component s = some x → ∃ y, component t = some y ∧ R x y)
    (run : Reaches step s t) (found : component s = some x) :
    ∃ y, component t = some y ∧ R x y := by
  induction run with
  | refl => exact ⟨x, found, refl x⟩
  | tail _ last ih =>
    obtain ⟨y, between, first⟩ := ih
    obtain ⟨z, after, second⟩ := keeps last between
    exact ⟨z, after, trans first second⟩

section
variable {E : Type*} {next : S → E → Option S} {events : List E}

/-- Events one after the other, as long as each can happen. -/
def replay (next : S → E → Option S) (s : S) (events : List E) : Option S := events.foldlM next s

theorem replay_concat (s : S) (before : List E) (event : E) :
    replay next s (before ++ [event]) = (replay next s before).bind (next · event) := by
  unfold replay
  simp only [List.foldlM_append, List.foldlM_cons, List.foldlM_nil, bind_pure]
  rfl

/-- What happens in a run can happen in the state before it. -/
theorem replay_step {before : List E} (ran : replay next s events = some t)
    (inside : before ++ [event] <+: events) (reached : replay next s before = some between) :
    ∃ after, next between event = some after := by
  obtain ⟨rest, rfl⟩ := inside
  unfold replay at ran reached
  rw [List.foldlM_append, List.foldlM_append, reached] at ran
  obtain ⟨after, first, -⟩ := Option.bind_eq_some_iff.mp ran
  exact ⟨after, by simpa using first⟩

/-- What a step preserves when it ends well holds after events that all end well. -/
theorem replay_invariant {P Q : S → Prop}
    (preserves : ∀ {s event t}, P s → next s event = some t → Q t → P t)
    (well : ∀ before, before <+: events → ∀ t, replay next s before = some t → Q t)
    (ran : replay next s events = some t) (initial : P s) : P t := by
  induction events using List.reverseRecOn generalizing t with
  | nil =>
    cases ran
    exact initial
  | append_singleton before event ih =>
    have ends := well _ (List.prefix_refl _) t ran
    rw [replay_concat] at ran
    obtain ⟨between, first, last⟩ := Option.bind_eq_some_iff.mp ran
    have shorter := fun shortest inside =>
      well shortest (List.IsPrefix.trans inside (List.prefix_append _ _))
    exact preserves (ih shorter first) last ends

end

end Transition
