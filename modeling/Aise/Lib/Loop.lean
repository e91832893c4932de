import Mathlib.Logic.Relation

/-! A loop whose body either leaves it or goes round again. `run` executes it under a
measure that each further round lowers; the rules say what such a run keeps, and when
two loops run in step. -/
namespace Loop
variable {σ τ : Type*}

inductive Flow (σ : Type*) where
  | leave (state : σ)
  | again (state : σ)

def Flow.map (f : σ → τ) : Flow σ → Flow τ
  | .leave s => .leave (f s)
  | .again s => .again (f s)

/-- The state a round ends in, whether or not another follows. -/
def Flow.state : Flow σ → σ
  | .leave s => s
  | .again s => s

/-- Entered in one state, the loop is left in another in its `rounds`-th round. -/
inductive Ends (body : σ → Flow σ) : σ → Nat → σ → Prop where
  | leave (left : body s = .leave t) : Ends body s 1 t
  | again (round : body s = .again m) (rest : Ends body m rounds t) : Ends body s (rounds + 1) t

def run (body : σ → Flow σ) (measure : σ → Nat)
    (descends : ∀ {s t}, body s = .again t → measure t < measure s) :
    (fuel : Nat) → (s : σ) → measure s < fuel → σ
  | fuel + 1, s, enough =>
    match round : body s with
    | .leave t => t
    | .again m =>
      run body measure descends fuel m
        (Nat.lt_of_lt_of_le (descends round) (Nat.le_of_lt_succ enough))

/-- The loop, for as many rounds at most; `none` where it has not been left by then. -/
def within (body : σ → Flow σ) : (rounds : Nat) → σ → Option σ
  | 0, _ => none
  | rounds + 1, s =>
    match body s with
    | .leave t => some t
    | .again m => within body rounds m

/-- A round of the loop begins in the state. -/
abbrev Enters (body : σ → Flow σ) : σ → σ → Prop :=
  Relation.ReflTransGen fun s t => body s = .again t

/-- The loop is in the state before its first round or after one of its rounds. -/
def Visits (body : σ → Flow σ) (s t : σ) : Prop :=
  t = s ∨ ∃ m, Enters body s m ∧ t = (body m).state

section
variable {body : σ → Flow σ} {measure : σ → Nat}
  {descends : ∀ {s t}, body s = .again t → measure t < measure s}

/-- The loop is left, within as many rounds as the measure allows. -/
theorem run_ends (fuel : Nat) (s : σ) (enough : measure s < fuel) :
    ∃ rounds, rounds ≤ fuel ∧ Ends body s rounds (run body measure descends fuel s enough) := by
  induction fuel generalizing s with
  | zero => omega
  | succ fuel ih =>
    unfold run
    split
    · rename_i left
      exact ⟨1, by omega, .leave left⟩
    · rename_i m round
      obtain ⟨rounds, bound, rest⟩ := ih m _
      exact ⟨rounds + 1, by omega, .again round rest⟩

theorem Ends.within (ends : Ends body s rounds t) (enough : rounds ≤ bound) :
    within body bound s = some t := by
  induction ends generalizing bound with
  | leave left =>
    cases bound with
    | zero => omega
    | succ bound => simp only [Loop.within, left]
  | again round _ ih =>
    cases bound with
    | zero => omega
    | succ bound =>
      simp only [Loop.within, round]
      exact ih (by omega)

/-- What every round keeps holds when the loop has been left. -/
theorem within_invariant {P : σ → Prop} (keeps : ∀ s, P s → P (body s).state) {rounds : Nat} {s t : σ}
    (left : within body rounds s = some t) (initial : P s) : P t := by
  induction rounds generalizing s with
  | zero => cases left
  | succ rounds ih =>
    have next := keeps s initial
    unfold within at left
    split at left
    · rename_i here
      rw [here] at next
      exact Option.some.inj left ▸ next
    · rename_i again
      rw [again] at next
      exact ih left next

/-- What every further round keeps, and the last one turns into the conclusion. -/
theorem Ends.invariant {P Q : σ → Prop} (keeps : ∀ {s t}, P s → body s = .again t → P t)
    (closes : ∀ {s t}, P s → body s = .leave t → Q t) (ends : Ends body s rounds t)
    (initial : P s) : Q t := by
  induction ends with
  | leave left => exact closes initial left
  | again round _ ih => exact ih (keeps initial round)

theorem Ends.visits (ends : Ends body s rounds t) : Visits body s t := by
  induction ends with
  | leave left => exact .inr ⟨_, .refl, by rw [left, Flow.state]⟩
  | again round _ ih =>
    rcases ih with rfl | ⟨last, entered, rfl⟩
    · exact .inr ⟨_, .refl, by rw [round, Flow.state]⟩
    · exact .inr ⟨last, .head round entered, rfl⟩

/-- What holds before the loop and not after it, though leaving the loop keeps it, is lost
in one of the rounds between. -/
theorem Ends.lost {P : σ → Prop} (closes : ∀ {s t}, P s → body s = .leave t → P t)
    (ends : Ends body s rounds t) (held : P s) (lost : ¬P t) :
    ∃ m n, Enters body s m ∧ body m = .again n ∧ P m ∧ ¬P n := by
  induction ends with
  | leave left => exact absurd (closes held left) lost
  | @again s next _ _ round _ ih =>
    by_cases kept : P next
    · obtain ⟨m, n, entered, again, before, after⟩ := ih kept lost
      exact ⟨m, n, .head round entered, again, before, after⟩
    · exact ⟨s, next, .refl, round, held, kept⟩

/-- What every round keeps that meets a condition holds wherever a loop is, if each
round it begins meets the condition. -/
theorem Visits.invariant {P C : σ → Prop} (keeps : ∀ {s}, P s → C s → P (body s).state)
    (initial : P s) (meets : ∀ m, Enters body s m → C m) (visits : Visits body s t) : P t := by
  have entered {m : σ} (enters : Enters body s m) : P m := by
    induction enters with
    | refl => exact initial
    | tail before again ih =>
      have next := keeps ih (meets _ before)
      rwa [again] at next
  rcases visits with rfl | ⟨m, enters, rfl⟩
  · exact initial
  · exact keeps (entered enters) (meets m enters)

end

/-- Two loops whose bodies agree up to `f` are left in states that agree up to `f`. -/
theorem Ends.map {body : σ → Flow σ} {other : τ → Flow τ} {f : σ → τ}
    (agree : ∀ s, other (f s) = (body s).map f) (ends : Ends body s rounds t) :
    Ends other (f s) rounds (f t) := by
  induction ends with
  | leave left => exact .leave (by rw [agree, left, Flow.map])
  | again round _ ih => exact .again (by rw [agree, round, Flow.map]) ih

theorem Ends.unique {body : σ → Flow σ} (first : Ends body s m t) (second : Ends body s n u) :
    t = u := by
  induction first generalizing n with
  | leave left =>
    cases second with
    | leave right => exact Flow.leave.inj (left.symm.trans right)
    | again round => cases left.symm.trans round
  | again round _ ih =>
    cases second with
    | leave left => cases left.symm.trans round
    | again other rest =>
      cases Flow.again.inj (round.symm.trans other)
      exact ih rest

/-- What a round comes to, with the states it ends in related. -/
def Flow.Related (R : σ → τ → Prop) : Flow σ → Flow τ → Prop
  | .leave s, .leave t => R s t
  | .again s, .again t => R s t
  | _, _ => False

/-- A loop that follows another round by round is left with it. -/
theorem Ends.follows {body : σ → Flow σ} {other : τ → Flow τ} {R : σ → τ → Prop}
    (agree : ∀ {s t}, R s t → (body s).Related R (other t)) (ends : Ends other t rounds u)
    (related : R s t) : ∃ v, Ends body s rounds v ∧ R v u := by
  induction ends generalizing s with
  | leave left =>
    have step := agree related
    rw [left] at step
    cases round : body s with
    | leave v =>
      rw [round] at step
      exact ⟨v, .leave round, step⟩
    | again v =>
      rw [round] at step
      exact step.elim
  | again again _ ih =>
    have step := agree related
    rw [again] at step
    cases round : body s with
    | leave v =>
      rw [round] at step
      exact step.elim
    | again v =>
      rw [round] at step
      obtain ⟨last, rest, held⟩ := ih step
      exact ⟨last, .again round rest, held⟩

/-- A `for` loop keeps what its body keeps. -/
theorem foldl_keeps {α X : Type*} (read : σ → α) {step : σ → X → σ}
    (keeps : ∀ state x, read (step state x) = read state) (state : σ) (xs : List X) :
    read (xs.foldl step state) = read state := by
  induction xs generalizing state with
  | nil => rfl
  | cons x xs ih => exact (ih _).trans (keeps state x)

end Loop
