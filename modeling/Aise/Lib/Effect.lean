import Mathlib.Logic.Basic

/-! Programs that change a state and may fail. A failure keeps what was changed before it,
so a rule speaks about both ways a program can end. -/
namespace Effect
variable {σ ε α β ρ : Type} {prog : EStateM ε σ α} {P : σ → Prop} {E : σ → Prop}

/-- The state a program leaves behind, whether or not it succeeded. -/
def after : EStateM.Result ε σ α → σ
  | .ok _ t => t
  | .error _ t => t

/-- Begun where `P` holds, the program returns with `Q`, or fails with `E`. -/
def Meets (P : σ → Prop) (prog : EStateM ε σ α) (Q : α → σ → Prop) (E : σ → Prop) : Prop :=
  ∀ s, P s → match prog s with
    | .ok value t => Q value t
    | .error _ t => E t

/-- The program keeps `P`, also when it fails. -/
abbrev Keeps (P : σ → Prop) (prog : EStateM ε σ α) : Prop := Meets P prog (fun _ => P) P

/-- The program changes nothing that `read` shows. -/
def Spares (read : σ → ρ) (prog : EStateM ε σ α) : Prop := ∀ s, read (after (prog s)) = read s

theorem Meets.bind {Q : α → σ → Prop} {R : β → σ → Prop} {next : α → EStateM ε σ β}
    (first : Meets P prog Q E) (rest : ∀ value, Meets (Q value) (next value) R E) :
    Meets P (prog >>= next) R E := by
  intro s holds
  have here := first s holds
  change match EStateM.bind prog next s with | .ok value t => R value t | .error _ t => E t
  unfold EStateM.bind
  cases ran : prog s with
  | ok value t =>
    rw [ran] at here
    exact rest value t here
  | error failure t =>
    rw [ran] at here
    exact here

theorem Keeps.bind {next : α → EStateM ε σ β} (first : Keeps P prog)
    (rest : ∀ value, Keeps P (next value)) : Keeps P (prog >>= next) :=
  Meets.bind first rest

theorem keeps_modify {change : σ → σ} (holds : ∀ s, P s → P (change s)) :
    Keeps P (modify change : EStateM ε σ PUnit) := holds

theorem Meets.weaken {Q R : α → σ → Prop} {F : σ → Prop} {S : σ → Prop}
    (meets : Meets P prog Q E) (before : ∀ s, S s → P s)
    (returned : ∀ value s, Q value s → R value s) (failed : ∀ s, E s → F s) :
    Meets S prog R F := by
  intro s holds
  have here := meets s (before s holds)
  cases ran : prog s with
  | ok value t =>
    rw [ran] at here
    exact returned value t here
  | error failure t =>
    rw [ran] at here
    exact failed t here

/-- What holds both ways a program can end holds after it. -/
theorem Meets.leaves {R : σ → Prop} (meets : Meets P prog (fun _ => R) R) {s : σ} (holds : P s) :
    R (Effect.after (prog s)) := by
  have here := meets s holds
  cases ran : prog s with
  | ok value t =>
    rw [ran] at here
    exact here
  | error failure t =>
    rw [ran] at here
    exact here

theorem Meets.after {P : σ → Prop} (keeps : Keeps P prog) {s : σ} (holds : P s) :
    P (Effect.after (prog s)) :=
  keeps.leaves holds

theorem meets_pure {Q : α → σ → Prop} {value : α} (holds : ∀ s, P s → Q value s) :
    Meets P (pure value : EStateM ε σ α) Q E := holds

theorem meets_throw {Q : α → σ → Prop} {failure : ε} (holds : ∀ s, P s → E s) :
    Meets P (throw failure : EStateM ε σ α) Q E := holds

theorem meets_modify {Q : PUnit → σ → Prop} {change : σ → σ} (holds : ∀ s, P s → Q ⟨⟩ (change s)) :
    Meets P (modify change : EStateM ε σ PUnit) Q E := holds

theorem Meets.map {Q : α → σ → Prop} {R : β → σ → Prop} {f : α → β} (meets : Meets P prog Q E)
    (returned : ∀ value s, Q value s → R (f value) s) : Meets P (f <$> prog) R E := by
  intro s holds
  have here := meets s holds
  change match EStateM.map f prog s with | .ok value t => R value t | .error _ t => E t
  unfold EStateM.map
  cases ran : prog s with
  | ok value t =>
    rw [ran] at here
    exact returned value t here
  | error failure t =>
    rw [ran] at here
    exact here

/-- A loop keeps what every round keeps, whatever was accumulated before it. -/
theorem meets_foldlM {γ : Type} {J : β → σ → Prop} {round : β → γ → EStateM ε σ β}
    (each : ∀ total item, Meets (J total) (round total item) J E) (items : List γ) (total : β) :
    Meets (J total) (items.foldlM round total) J E := by
  induction items generalizing total with
  | nil => exact meets_pure fun _ holds => holds
  | cons item items ih =>
    rw [List.foldlM_cons]
    exact (each total item).bind ih

/-- The same, for rounds that need their item to be one of the loop's. -/
theorem meets_foldlM_mem {γ : Type} {J : β → σ → Prop} {round : β → γ → EStateM ε σ β}
    {items : List γ} (each : ∀ total, ∀ item ∈ items, Meets (J total) (round total item) J E)
    (total : β) : Meets (J total) (items.foldlM round total) J E := by
  induction items generalizing total with
  | nil => exact meets_pure fun _ holds => holds
  | cons item items ih =>
    rw [List.foldlM_cons]
    refine (each total item List.mem_cons_self).bind fun value => ih (fun total item member => ?_) value
    exact each total item (List.mem_cons_of_mem _ member)

theorem keeps_forM {γ : Type} {round : γ → EStateM ε σ PUnit} (each : ∀ item, Keeps P (round item))
    (items : List γ) : Keeps P (forM items round) := by
  induction items with
  | nil => exact meets_pure fun _ holds => holds
  | cons item items ih =>
    rw [List.forM_cons]
    exact (each item).bind fun _ => ih

/-- What is spared is kept. -/
theorem Spares.keeps {read : σ → ρ} {P : ρ → Prop} (spares : Spares read prog) :
    Keeps (fun s => P (read s)) prog := by
  intro s holds
  have same := spares s
  cases ran : prog s with
  | ok value t =>
    rw [ran] at same
    exact (congrArg P same).mpr holds
  | error failure t =>
    rw [ran] at same
    exact (congrArg P same).mpr holds

section
variable {read : σ → ρ}

theorem spares_pure (value : α) : Spares read (pure value : EStateM ε σ α) := fun _ => rfl

theorem spares_throw (failure : ε) : Spares read (throw failure : EStateM ε σ α) := fun _ => rfl

theorem spares_get : Spares read (get : EStateM ε σ σ) := fun _ => rfl

theorem spares_modify {change : σ → σ} (same : ∀ s, read (change s) = read s) :
    Spares read (modify change : EStateM ε σ PUnit) := same

theorem Spares.bind {next : α → EStateM ε σ β} (first : Spares read prog)
    (rest : ∀ value, Spares read (next value)) : Spares read (prog >>= next) := by
  intro s
  have here := first s
  change read (Effect.after (EStateM.bind prog next s)) = read s
  unfold EStateM.bind
  cases ran : prog s with
  | ok value t =>
    rw [ran] at here
    exact (rest value t).trans here
  | error failure t =>
    rw [ran] at here
    exact here

theorem spares_foldlM {γ : Type} {round : β → γ → EStateM ε σ β}
    (each : ∀ total item, Spares read (round total item)) (items : List γ) (total : β) :
    Spares read (items.foldlM round total) := by
  induction items generalizing total with
  | nil => exact spares_pure total
  | cons item items ih =>
    rw [List.foldlM_cons]
    exact (each total item).bind ih

theorem spares_forM {γ : Type} {round : γ → EStateM ε σ PUnit}
    (each : ∀ item, Spares read (round item)) (items : List γ) : Spares read (forM items round) := by
  induction items with
  | nil => exact spares_pure _
  | cons item items ih =>
    rw [List.forM_cons]
    exact (each item).bind fun _ => ih

end

section
variable {γ : Type} {Q : α → σ → Prop} {H : α → σ → Prop}

/-- Where the program returns, the condition holds of what follows it. -/
def Onward (prog : EStateM ε σ α) (H : α → σ → Prop) (s : σ) : Prop :=
  match prog s with
  | .ok value t => H value t
  | .error _ _ => True

/-- Every round a loop begins, it begins where the condition holds. -/
def Throughout (G : β → γ → σ → Prop) (round : β → γ → EStateM ε σ β) : List γ → β → σ → Prop
  | [], _, _ => True
  | item :: items, total, s =>
    G total item s ∧ Onward (round total item) (Throughout G round items) s

instance decidableOnward [∀ value t, Decidable (H value t)] (s : σ) : Decidable (Onward prog H s) :=
  match ran : prog s with
  | .ok value t => decidable_of_iff (H value t) (by simp only [Onward, ran])
  | .error _ _ => isTrue (by simp only [Onward, ran])

instance decidableThroughout {G : β → γ → σ → Prop} {round : β → γ → EStateM ε σ β}
    [each : ∀ total item s, Decidable (G total item s)] :
    ∀ (items : List γ) (total : β) (s : σ), Decidable (Throughout G round items total s)
  | [], _, _ => isTrue trivial
  | item :: items, total, s =>
    have : ∀ value t, Decidable (Throughout G round items value t) := decidableThroughout items
    have : Decidable (Onward (round total item) (Throughout G round items) s) := decidableOnward s
    inferInstanceAs (Decidable (_ ∧ _))

theorem onward_of_forall (after : ∀ value s, H value s) (s : σ) : Onward prog H s := by
  unfold Onward
  cases prog s with
  | ok value t => exact after value t
  | error _ _ => trivial

theorem throughout_of_forall {G : β → γ → σ → Prop} {round : β → γ → EStateM ε σ β}
    (each : ∀ total item s, G total item s) (items : List γ) (total : β) (s : σ) :
    Throughout G round items total s := by
  induction items generalizing total s with
  | nil => trivial
  | cons item items ih => exact ⟨each total item s, onward_of_forall ih s⟩

/-- A program may use what is known of the states it goes on from. -/
theorem Meets.onward {R : β → σ → Prop} {next : α → EStateM ε σ β} (first : Meets P prog Q E)
    (rest : ∀ value, Meets (fun s => Q value s ∧ H value s) (next value) R E) :
    Meets (fun s => P s ∧ Onward prog H s) (prog >>= next) R E := by
  rintro s ⟨holds, later⟩
  have here := first s holds
  change match EStateM.bind prog next s with | .ok value t => R value t | .error _ t => E t
  unfold Onward at later
  unfold EStateM.bind
  cases ran : prog s with
  | ok value t =>
    rw [ran] at here later
    exact rest value t ⟨here, later⟩
  | error failure t =>
    rw [ran] at here
    exact here

/-- A loop that is told which items it has been through. -/
theorem meets_foldlM_throughout {J : List γ → β → σ → Prop} {G : β → γ → σ → Prop}
    {round : β → γ → EStateM ε σ β} {items : List γ}
    (each : ∀ done item rest total, items = done ++ item :: rest →
      Meets (fun s => J done total s ∧ G total item s) (round total item) (J (done ++ [item])) E)
    (total : β) :
    Meets (fun s => J [] total s ∧ Throughout G round items total s) (items.foldlM round total)
      (J items) E := by
  have loop (done rest : List γ) (total : β) (whole : items = done ++ rest) :
      Meets (fun s => J done total s ∧ Throughout G round rest total s) (rest.foldlM round total)
        (J items) E := by
    induction rest generalizing done total with
    | nil =>
      rw [List.append_nil] at whole
      subst whole
      exact meets_pure fun _ holds => holds.1
    | cons item rest ih =>
      rw [List.foldlM_cons]
      refine ((each done item rest total whole).onward fun value =>
        ih (done ++ [item]) value (by rw [whole, List.append_assoc, List.singleton_append])).weaken
        (fun s holds => ?_) (fun _ _ kept => kept) fun _ kept => kept
      exact ⟨⟨holds.1, holds.2.1⟩, holds.2.2⟩
  exact loop [] items total rfl

theorem meets_forM_throughout {G : γ → σ → Prop} {round : γ → EStateM ε σ PUnit}
    {items : List γ}
    (each : ∀ item ∈ items, Meets (fun s => P s ∧ G item s) (round item) (fun _ => P) P) :
    Meets (fun s => P s ∧ Throughout (fun _ => G) (fun _ => round) items ⟨⟩ s) (forM items round)
      (fun _ => P) P := by
  induction items with
  | nil => exact meets_pure fun _ holds => holds.1
  | cons item items ih =>
    obtain ⟨first, rest⟩ := List.forall_mem_cons.mp each
    rw [List.forM_cons]
    refine (first.onward fun _ => ih rest).weaken (fun s holds => ?_) (fun _ _ kept => kept)
      fun _ kept => kept
    exact ⟨⟨holds.1, holds.2.1⟩, holds.2.2⟩

/-- What is read is the state the program goes on from. -/
theorem meets_get_bind {next : σ → EStateM ε σ α}
    (each : ∀ s, P s → Meets (fun t => t = s) (next s) Q E) : Meets P (get >>= next) Q E :=
  fun s holds => each s holds s rfl

end

section
variable {bad : Prop} [Decidable bad] {failure : ε} {s : σ}

/-- An early return with a failure. -/
def throwIf (bad : Prop) [Decidable bad] (failure : ε) : EStateM ε σ Unit :=
  if bad then throw failure else pure ⟨⟩

theorem run_throwIf_bind (next : Unit → EStateM ε σ α) :
    (throwIf bad failure >>= next) s = if bad then .error failure s else next ⟨⟩ s := by
  unfold throwIf
  split <;> rfl

theorem run_get_bind (next : σ → EStateM ε σ α) : ((get : EStateM ε σ σ) >>= next) s = next s s := rfl

theorem run_set_bind (t : σ) (next : PUnit → EStateM ε σ α) :
    ((set t : EStateM ε σ PUnit) >>= next) s = next ⟨⟩ t := rfl

theorem run_set (t : σ) : (set t : EStateM ε σ PUnit) s = .ok ⟨⟩ t := rfl

theorem run_modify_bind (change : σ → σ) (next : PUnit → EStateM ε σ α) :
    ((modify change : EStateM ε σ PUnit) >>= next) s = next ⟨⟩ (change s) := rfl

theorem run_pure (value : α) : (pure value : EStateM ε σ α) s = .ok value s := rfl

end

section
variable {bad : Prop} [Decidable bad] {failure : ε} {s t : σ} {value : α}

/-- A result, with its failure turned into one of the program. -/
def orThrow {ρ : Type} (result : Except ρ α) (failure : ρ → ε) : EStateM ε σ α :=
  match result with
  | .ok value => pure value
  | .error error => throw (failure error)

theorem run_bind_eq_ok {first : EStateM ε σ α} {next : α → EStateM ε σ β} {result : β}
    (ran : (first >>= next) s = .ok result t) :
    ∃ value u, first s = .ok value u ∧ next value u = .ok result t := by
  simp only [bind, EStateM.bind] at ran
  split at ran
  · rename_i value u done
    exact ⟨value, u, done, ran⟩
  · cases ran

/-- A program that returns is followed by what comes after it. -/
theorem run_bind_of_ok {first : EStateM ε σ α} (next : α → EStateM ε σ β)
    (done : first s = .ok value t) : (first >>= next) s = next value t := by
  simp only [bind, EStateM.bind, done]

theorem run_bind_of_error {first : EStateM ε σ α} (next : α → EStateM ε σ β)
    (failed : first s = .error failure t) : (first >>= next) s = .error failure t := by
  simp only [bind, EStateM.bind, failed]

theorem throwIf_eq_ok (ran : (throwIf bad failure : EStateM ε σ Unit) s = .ok ⟨⟩ t) :
    ¬ bad ∧ t = s := by
  unfold throwIf at ran
  split at ran
  · cases ran
  · rename_i fine
    cases ran
    exact ⟨fine, rfl⟩

theorem orThrow_eq_ok {ρ : Type} {result : Except ρ α} {failure : ρ → ε}
    (ran : (orThrow result failure : EStateM ε σ α) s = .ok value t) :
    result = .ok value ∧ t = s := by
  unfold orThrow at ran
  split at ran
  · cases ran
    exact ⟨rfl, rfl⟩
  · cases ran

theorem run_bind_eq_error {first : EStateM ε σ α} {next : α → EStateM ε σ β}
    (ran : (first >>= next) s = .error failure t) :
    first s = .error failure t ∨
      ∃ value u, first s = .ok value u ∧ next value u = .error failure t := by
  simp only [bind, EStateM.bind] at ran
  split at ran
  · rename_i value u done
    exact .inr ⟨value, u, done, ran⟩
  · rename_i error u done
    cases ran
    exact .inl done

theorem throwIf_eq_error {error : ε}
    (ran : (throwIf bad failure : EStateM ε σ Unit) s = .error error t) : bad ∧ error = failure := by
  unfold throwIf at ran
  split at ran
  · rename_i holds
    cases ran
    exact ⟨holds, rfl⟩
  · cases ran

theorem orThrow_eq_error {ρ : Type} {result : Except ρ α} {failure : ρ → ε} {error : ε}
    (ran : (orThrow result failure : EStateM ε σ α) s = .error error t) :
    ∃ cause, result = .error cause ∧ error = failure cause := by
  unfold orThrow at ran
  split at ran
  · cases ran
  · rename_i cause
    cases ran
    exact ⟨cause, rfl, rfl⟩

theorem spares_throwIf {read : σ → ρ} : Spares read (throwIf bad failure : EStateM ε σ Unit) := by
  unfold throwIf
  split
  · exact spares_throw failure
  · exact spares_pure _

theorem spares_orThrow {κ : Type} {read : σ → ρ} (result : Except κ α) (failure : κ → ε) :
    Spares read (orThrow result failure : EStateM ε σ α) := by
  unfold orThrow
  split
  · exact spares_pure _
  · exact spares_throw _

/-- A loop of checks ends well exactly when every one of them does. -/
theorem forM_throwIf_eq_ok {γ : Type} {bad : γ → Prop} [∀ item, Decidable (bad item)]
    {failure : γ → ε} {items : List γ} :
    (items.forM fun item => (throwIf (bad item) (failure item) : EStateM ε σ Unit)) s = .ok ⟨⟩ s ↔
      ∀ item ∈ items, ¬ bad item := by
  induction items with
  | nil => simp [run_pure]
  | cons item items ih =>
    rw [List.forM, run_throwIf_bind, List.forall_mem_cons, ← ih]
    split
    · rename_i holds
      simp [holds]
    · rename_i fine
      simp [fine]

theorem Spares.of_ok (spares : Spares id prog) (ran : prog s = .ok value t) : t = s := by
  have same := spares s
  rw [ran] at same
  exact same

/-- What follows a program that changes nothing starts where the program did. -/
theorem Spares.bind_eq_ok {next : α → EStateM ε σ β} {result : β} (spares : Spares id prog)
    (ran : (prog >>= next) s = .ok result t) :
    ∃ value, prog s = .ok value s ∧ next value s = .ok result t := by
  obtain ⟨value, u, done, ran⟩ := run_bind_eq_ok ran
  cases spares.of_ok done
  exact ⟨value, done, ran⟩

theorem Spares.bind_eq_error {next : α → EStateM ε σ β} (spares : Spares id prog)
    (ran : (prog >>= next) s = .error failure t) :
    prog s = .error failure t ∨ ∃ value, prog s = .ok value s ∧ next value s = .error failure t := by
  rcases run_bind_eq_error ran with failed | ⟨value, u, done, ran⟩
  · exact .inl failed
  · cases spares.of_ok done
    exact .inr ⟨value, done, ran⟩

/-- A failure leaves the state as it was. -/
def Careful (prog : EStateM ε σ α) : Prop := ∀ s failure t, prog s = .error failure t → t = s

theorem careful_set (s : σ) : Careful (set s : EStateM ε σ PUnit) := by
  intro before failure t failed
  cases failed

theorem careful_modify (change : σ → σ) : Careful (modify change : EStateM ε σ PUnit) := by
  intro before failure t failed
  cases failed

/-- What comes after a look at the state still starts from it. -/
theorem Careful.bind {next : α → EStateM ε σ β} (first : Spares id prog)
    (later : ∀ value, Careful (next value)) : Careful (prog >>= next) := by
  intro s failure t failed
  have same := first s
  simp only [Bind.bind, EStateM.bind] at failed
  split at failed
  · rename_i value u done
    rw [done] at same
    cases same
    exact later _ _ _ _ failed
  · rename_i error u done
    rw [done] at same
    cases same
    cases failed
    rfl

end

/-- Runs a program and keeps its failure as a value. -/
def attempt {κ : Type} (prog : EStateM κ σ α) : EStateM ε σ (Except κ α) :=
  fun s => match prog s with
    | .ok value t => .ok (.ok value) t
    | .error failure t => .ok (.error failure) t

/-- A program on a part of the state, run on the whole of it. -/
def zoom {τ : Type} (part : σ → τ) (put : σ → τ → σ) (prog : EStateM ε τ α) : EStateM ε σ α :=
  fun s => match prog (part s) with
    | .ok value t => .ok value (put s t)
    | .error failure t => .error failure (put s t)

theorem careful_zoom {τ : Type} {part : σ → τ} {put : σ → τ → σ} {prog : EStateM ε τ α}
    (careful : Careful prog) (same : ∀ s, put s (part s) = s) : Careful (zoom part put prog) := by
  intro s failure t failed
  unfold zoom at failed
  split at failed
  · cases failed
  · rename_i error u done
    cases failed
    rw [careful _ _ _ done, same]

end Effect
