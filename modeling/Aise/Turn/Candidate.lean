import Aise.Turn.Calls

/-! Along every sequence of calls on the context of a turn, only a candidate that passed validation
is ready to be committed. -/
namespace Aise.Domain
open Effect
namespace TurnExecutionContext
variable {T : TurnRecords} {json : TurnJson T} {start ctx next : TurnExecutionContext T}
  {call : ContextCall T} {calls : List (ContextCall T)} {changeSet : T.ChangeSet}

/-- Calls one after the other, whether they succeed or fail. -/
def execute (json : TurnJson T) (start : TurnExecutionContext T) (calls : List (ContextCall T)) :
    TurnExecutionContext T :=
  calls.foldl (fun ctx call => after (perform json call ctx)) start

/-- The call is a `replace_story` that succeeds. -/
def replaces (json : TurnJson T) (ctx : TurnExecutionContext T) (call : ContextCall T) : Bool :=
  call.replacesStory && match perform json call ctx with
    | .ok _ _ => true
    | .error _ _ => false

/-- How many `replace_story` calls succeeded. -/
def replacements (json : TurnJson T) : TurnExecutionContext T → List (ContextCall T) → Nat
  | _, [] => 0
  | ctx, call :: calls =>
    (if replaces json ctx call then 1 else 0) + replacements json (after (perform json call ctx)) calls

/-- The change set passed validation, and the story and the extraction are still those that were
validated. -/
def PassedOn (json : TurnJson T) (start : TurnExecutionContext T) (calls : List (ContextCall T))
    (changeSet : T.ChangeSet) : Prop :=
  ∃ before later, calls = before ++ .setValidationResult (.pass changeSet) :: later ∧
    (∃ validated, perform json (.setValidationResult (.pass changeSet)) (execute json start before) =
      .ok ⟨⟩ validated) ∧
    (execute json start before).story.isSome = true ∧
    (execute json start before).extraction.isSome = true ∧
    (execute json start calls).story = (execute json start before).story ∧
    (execute json start calls).storyVersion = (execute json start before).storyVersion ∧
    (execute json start calls).extraction = (execute json start before).extraction

theorem execute_concat (json : TurnJson T) (start : TurnExecutionContext T)
    (calls : List (ContextCall T)) (call : ContextCall T) :
    execute json start (calls ++ [call]) = after (perform json call (execute json start calls)) :=
  List.foldl_concat _ _ _ _

theorem replacements_concat (json : TurnJson T) (start : TurnExecutionContext T)
    (calls : List (ContextCall T)) (call : ContextCall T) :
    replacements json start (calls ++ [call]) = replacements json start calls +
      if replaces json (execute json start calls) call then 1 else 0 := by
  induction calls generalizing start with
  | nil => exact Nat.add_comm _ _
  | cons first calls ih =>
    rw [List.cons_append, replacements, ih, replacements, Nat.add_assoc]
    rfl

/-- A call fails and changes nothing, or succeeds with one of the moves. -/
theorem perform_cases (json : TurnJson T) (call : ContextCall T) (ctx : TurnExecutionContext T) :
    (∃ failure, perform json call ctx = .error failure ctx) ∨
      ∃ next, perform json call ctx = .ok ⟨⟩ next ∧ Moves ctx call next := by
  cases ran : perform json call ctx with
  | ok value next => exact .inr ⟨next, rfl, perform_moves ran⟩
  | error failure next =>
    cases perform_careful json call _ _ _ ran
    exact .inl ⟨failure, rfl⟩

/-! ### One context -/

/-- What holds of a context between calls. -/
structure Consistent (ctx : TurnExecutionContext T) : Prop where
  bound : ∀ extraction, ctx.extraction = some extraction →
    extraction.storyVersion = ctx.storyVersion
  preparing : isPreparing ctx.phase = true → ctx.story = none
  told : isPreparing ctx.phase = false → ctx.phase.isTerminal = false → ctx.story.isSome = true
  candidate : ctx.phase = .candidateReady → ctx.extraction.isSome = true
  passed : ∀ changeSet, ctx.changeSet = some changeSet → ctx.validation = some (.pass changeSet)
  closed : ctx.changeSet.isSome = true → ctx.phase = .readyToCommit ∨ ctx.phase.isTerminal = true
  ready : ctx.phase = .readyToCommit → ctx.changeSet.isSome = true

theorem consistent_new {budget : TurnBudget} : Consistent ({ budget } : TurnExecutionContext T) where
  bound := by simp
  preparing := by simp
  told := by simp [isPreparing]
  candidate := by simp
  passed := by simp
  closed := by simp
  ready := by simp

theorem not_terminal {phase : TurnPhase} (preparing : isPreparing phase = true) :
    phase.isTerminal = false := by
  cases phase <;> first | rfl | cases preparing

theorem Untouched.consistent (untouched : Untouched ctx next)
    (same : next.phase = ctx.phase ∨ isPreparing ctx.phase = true ∧ isPreparing next.phase = true)
    (consistent : Consistent ctx) : Consistent next := by
  obtain ⟨bound, preparing, told, candidate, passed, closed, ready⟩ := consistent
  obtain ⟨story, storyVersion, extraction, validation, changeSet, -, -, -⟩ := untouched
  rcases same with same | ⟨before, after⟩
  · constructor <;> simpa only [story, storyVersion, extraction, validation, changeSet, same]
  · have early : ∀ phase, isPreparing phase = false → next.phase ≠ phase := by
      rintro phase late rfl
      rw [after] at late
      cases late
    constructor
    · simpa only [extraction, storyVersion]
    · intro _
      rw [story, preparing before]
    · intro late
      rw [after] at late
      cases late
    · intro phase
      exact absurd phase (early _ rfl)
    · simpa only [changeSet, validation]
    · intro some
      rw [changeSet] at some
      rcases closed some with phase | terminal
      · rw [phase] at before
        cases before
      · rw [not_terminal before] at terminal
        cases terminal
    · intro phase
      exact absurd phase (early _ rfl)

theorem Consistent.moves (consistent : Consistent ctx) (moves : Moves ctx call next) :
    Consistent next := by
  obtain ⟨bound, preparing, told, candidate, passed, closed, ready⟩ := id consistent
  cases moves with
  | prepare other before after untouched => exact untouched.consistent (.inr ⟨before, after⟩) consistent
  | spend other phase untouched => exact untouched.consistent (.inl phase) consistent
  | generate phase => constructor <;> simp [isPreparing, TurnPhase.isTerminal]
  | extract other phase =>
    have story : ctx.story.isSome = true := by
      rcases phase with phase | phase <;> exact told (by rw [phase]; rfl) (by rw [phase]; rfl)
    constructor <;> simp [isPreparing, TurnPhase.isTerminal, story]
  | extractionFailed phase =>
    have story : ctx.story.isSome = true := by
      rcases phase with phase | phase <;> exact told (by rw [phase]; rfl) (by rw [phase]; rfl)
    constructor <;> simp [isPreparing, TurnPhase.isTerminal, story]
  | @validated result phase short =>
    have story : ctx.story.isSome = true := told (by rw [phase]; rfl) (by rw [phase]; rfl)
    cases result <;> constructor <;>
      simp [isPreparing, TurnPhase.isTerminal, story, ValidationResult.decision,
        ValidationDecision.toTurnPhase, ValidationResult.intoChangeSet] <;> exact bound
  | replaceStory phase room => constructor <;> simp [isPreparing, TurnPhase.isTerminal]
  | commit phase =>
    constructor <;> first
      | exact bound
      | exact passed
      | simp [isPreparing, TurnPhase.isTerminal]
  | @mark kind failure free =>
    cases kind <;> constructor <;> first
      | exact bound
      | exact passed
      | simp [isPreparing, TurnPhase.isTerminal, TurnTerminalKind.phase]

/-! ### Whole runs -/

theorem consistent_execute {budget : TurnBudget} (made : new budget = .ok start) :
    Consistent (execute json start calls) := by
  induction calls using List.reverseRecOn with
  | nil =>
    unfold new at made
    split at made
    · cases made
    · cases made
      exact consistent_new
  | append_singleton calls call ih =>
    rw [execute_concat]
    obtain ⟨failure, same⟩ | ⟨next, same, moves⟩ :=
      perform_cases json call (execute json start calls)
    · rw [same]
      exact ih
    · rw [same]
      exact ih.moves moves

/-- The version counts the stories there were. -/
structure Versioned (ctx : TurnExecutionContext T) (replaced : Nat) : Prop where
  version : ctx.storyVersion.toNat = if ctx.story.isSome then 1 + replaced else 0
  unreplaced : ctx.story = none → replaced = 0

theorem Versioned.moves {replaced : Nat} (consistent : Consistent ctx)
    (versioned : Versioned ctx replaced) (moves : Moves ctx call next) :
    Versioned next (replaced + if call.replacesStory then 1 else 0) := by
  obtain ⟨version, unreplaced⟩ := versioned
  cases moves with
  | prepare other before after untouched | spend other phase untouched =>
    obtain ⟨story, storyVersion, -⟩ := untouched
    rw [other]
    constructor
    · rw [story, storyVersion]
      exact version
    · rw [story]
      exact unreplaced
  | generate phase =>
    have none := unreplaced (consistent.preparing (by rw [phase]; rfl))
    subst none
    exact ⟨rfl, by simp⟩
  | extract other phase =>
    rw [other]
    exact ⟨version, unreplaced⟩
  | extractionFailed phase | validated phase short | commit phase => exact ⟨version, unreplaced⟩
  | @mark kind failure free =>
    cases kind <;> exact ⟨version, unreplaced⟩
  | replaceStory phase room =>
    have told := consistent.told (by rw [phase]; rfl) (by rw [phase]; rfl)
    rw [if_pos told] at version
    constructor
    · simp only [Option.isSome_some, if_true, ContextCall.replacesStory]
      rw [UInt32.toNat_add, UInt32.toNat_one, Nat.mod_eq_of_lt room, version]
      rfl
    · simp

theorem versioned_execute {budget : TurnBudget} (made : new budget = .ok start) :
    Versioned (execute json start calls) (replacements json start calls) := by
  induction calls using List.reverseRecOn with
  | nil =>
    unfold new at made
    split at made
    · cases made
    · cases made
      exact ⟨rfl, fun _ => rfl⟩
  | append_singleton calls call ih =>
    rw [execute_concat, replacements_concat]
    obtain ⟨failure, same⟩ | ⟨next, same, moves⟩ :=
      perform_cases json call (execute json start calls)
    · rw [replaces, same, Bool.and_false]
      exact ih
    · rw [replaces, same, Bool.and_true]
      exact ih.moves (consistent_execute made) moves

theorem PassedOn.later (passed : PassedOn json start calls changeSet)
    (story : (execute json start (calls ++ [call])).story = (execute json start calls).story)
    (version : (execute json start (calls ++ [call])).storyVersion =
      (execute json start calls).storyVersion)
    (extraction : (execute json start (calls ++ [call])).extraction =
      (execute json start calls).extraction) : PassedOn json start (calls ++ [call]) changeSet := by
  obtain ⟨before, later, rfl, validated, told, extracted, sameStory, sameVersion, same⟩ := passed
  refine ⟨before, later ++ [call], by simp, validated, told, extracted, ?_, ?_, ?_⟩
  · rw [story, sameStory]
  · rw [version, sameVersion]
  · rw [extraction, same]

theorem passedOn_execute {budget : TurnBudget} (made : new budget = .ok start)
    (present : (execute json start calls).changeSet = some changeSet) :
    PassedOn json start calls changeSet := by
  induction calls using List.reverseRecOn with
  | nil =>
    unfold new at made
    split at made
    · cases made
    · cases made
      cases present
  | append_singleton calls call ih =>
    have consistent : Consistent (execute json start calls) := consistent_execute made
    have last := execute_concat json start calls call
    obtain ⟨failure, same⟩ | ⟨next, same, moves⟩ :=
      perform_cases json call (execute json start calls)
    · rw [same] at last
      rw [last] at present
      exact (ih present).later (by rw [last]; rfl) (by rw [last]; rfl) (by rw [last]; rfl)
    · rw [same] at last
      rw [last] at present
      change next.changeSet = some changeSet at present
      change execute json start (calls ++ [call]) = next at last
      cases moves with
      | prepare other before after untouched | spend other phase untouched =>
        rw [untouched.changeSet] at present
        exact (ih present).later (by rw [last, untouched.story])
          (by rw [last, untouched.storyVersion]) (by rw [last, untouched.extraction])
      | generate phase | extract other phase | extractionFailed phase | replaceStory phase room =>
        cases present
      | commit phase =>
        exact (ih present).later (by rw [last]) (by rw [last]) (by rw [last])
      | mark free =>
        exact (ih present).later (by rw [last]) (by rw [last]) (by rw [last])
      | @validated result phase short =>
        cases result with
        | pass passes =>
          cases present
          exact ⟨calls, [], rfl, ⟨_, same⟩, consistent.told (by rw [phase]; rfl) (by rw [phase]; rfl),
            consistent.candidate phase, by rw [last], by rw [last], by rw [last]; rfl⟩
        | repairStory | reextractState | reject => cases present

end TurnExecutionContext

open TurnExecutionContext

/-- In every reachable context the extraction is of the current story, a change set is there only
after a validation of this story and this extraction passed, the version counts the stories, and
a call that fails changes nothing. -/
theorem only_validated_candidate_commits {T : TurnRecords} (json : TurnJson T) (budget : TurnBudget)
    (start : TurnExecutionContext T) (made : new budget = .ok start)
    (calls : List (ContextCall T)) :
    (∀ extraction, (execute json start calls).extraction = some extraction →
      extraction.storyVersion = (execute json start calls).storyVersion) ∧
    (∀ changeSet, (execute json start calls).changeSet = some changeSet →
      (execute json start calls).validation = some (.pass changeSet) ∧
      PassedOn json start calls changeSet ∧
      ((execute json start calls).phase = .readyToCommit ∨
        (execute json start calls).phase.isTerminal = true)) ∧
    ((execute json start calls).phase = .readyToCommit →
      (execute json start calls).changeSet.isSome = true) ∧
    (execute json start calls).storyVersion.toNat =
      (if (execute json start calls).story.isSome then 1 + replacements json start calls else 0) ∧
    ∀ call failure next, perform json call (execute json start calls) = .error failure next →
      next = execute json start calls := by
  have consistent : Consistent (execute json start calls) := consistent_execute made
  refine ⟨consistent.bound, ?_, consistent.ready, (versioned_execute made).version, ?_⟩
  · intro changeSet present
    refine ⟨consistent.passed changeSet present, passedOn_execute made present, ?_⟩
    exact consistent.closed (by rw [present]; rfl)
  · intro call failure next failed
    exact perform_careful json call _ _ _ failed

namespace Candidate.Sample

def budget : TurnBudget where
  limits := {
    maxRepairRounds := 1
    maxLlmCalls := 4
    maxInputTokens := 100
    maxOutputTokens := 100
    maxTotalTokens := 150
    maxItemsPerAudience := 4
    maxTokensPerAudience := 50
    maxTotalItems := 8
    maxRetrievedTokens := 50
    maxItemBytes := 50
    maxContextTokens := 50
    maxCharacterDecisions := 2
    maxCharacterDecisionBytes := 50
    maxPlanBytes := 50
    maxStoryTextBytes := 50
    maxStateExtractionBytes := 50
    maxValidationIssueBytes := 50 }

/-- Records that are numbers or nothing. -/
abbrev records : TurnRecords := ⟨Unit, Unit, Unit, Nat, Nat, Nat⟩

def json : TurnJson records where
  plan _ := .ok "\x7b\x7d"
  envelope envelope := .ok (String.ofList (List.replicate envelope '0'))

def keeper : RoleContextView where
  roleId := ⟨"keeper", by decide⟩
  roleLabel := ⟨"keeper"⟩
  narrativeFunction := ⟨"guide"⟩
  name := ⟨"Ada"⟩
  location := ⟨"lighthouse"⟩
  controller := .player "one"

def baseline : BaselineContext where
  storyTitle := ⟨"The light"⟩
  playerRole := keeper
  relevantRoles := []
  relevantWorldKnowledge := {}
  roleIndex := []
  knowledgeIndex := []
  storyContinuity := { summary := ⟨""⟩ }
  activeStoryConstraints := []

def plan : WriterPlan := ⟨⟨"Keep the light"⟩, {}, []⟩

/-- A turn whose first story is repaired and whose second one passes. -/
def calls : List (ContextCall records) :=
  [.completeInitialization, .setPreparedContext () baseline () (), .setWriterPlan plan,
    .completeContextPreparation, .setGeneratedStory ⟨⟨"The light went out."⟩⟩, .setStateExtraction 3,
    .setValidationResult (.repairStory ⟨[⟨.storyTextEmpty, .story, .repairStory, "again", none⟩], 1,
      by decide⟩),
    .replaceStory ⟨⟨"The light stayed on."⟩⟩, .setStateExtraction 4, .setValidationResult (.pass 7)]

def start : TurnExecutionContext records := { budget }

theorem repaired_story_passes :
    (execute json start calls).phase = .readyToCommit ∧
    (execute json start calls).changeSet = some (7 : Nat) ∧
    replacements json start calls = 1 ∧
    (execute json start calls).storyVersion.toNat =
      if (execute json start calls).story.isSome then 1 + replacements json start calls else 0 :=
  ⟨by decide +kernel, by decide +kernel, by decide +kernel,
    (only_validated_candidate_commits json budget start rfl calls).2.2.2.1⟩

/-- Before the first story the version is zero. -/
theorem version_before_story : ¬ ∀ (T : TurnRecords) (json : TurnJson T) (budget : TurnBudget)
    (start : TurnExecutionContext T), new budget = .ok start → ∀ calls : List (ContextCall T),
      (execute json start calls).storyVersion.toNat = 1 + replacements json start calls := by
  intro always
  have same := always records json budget start rfl []
  exact absurd same (by decide)

end Candidate.Sample

end Aise.Domain
