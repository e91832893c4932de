import Aise.Pipeline.Error
import Aise.Persistence.History

/-! The summary stage. It folds the oldest recent turns into the summary once the
window would exceed its length; the store then drops what the summary covers. The
two agree at every turn: the window is exactly the uncovered end of the history. -/
namespace Aise

/-- `pipeline_prompt::story_summary`. -/
def storySummary (context : StoryContext) : Option String :=
  (context.summary.map (RustText.trim ·.text)).filter (· ≠ "")

def storyOpening (context : StoryContext) : String :=
  match storySummary context with
  | some _ => ""
  | none => context.opening.value

/-- Both turn statuses pass the source's filter. -/
def turnsStory (turns : List Turn) : String :=
  String.intercalate "\n\n" ((turns.map (RustText.trim ·.turnSegment.text)).filter (· ≠ ""))

abbrev PromptVars := List (String × String)

def summaryVars (context : StoryContext) (coveredTurns : Nat) : PromptVars := [
  ("story_summary", (storySummary context).getD ""),
  ("story_opening", storyOpening context),
  ("story_to_summarize", turnsStory (context.recentTurns.take coveredTurns))]

structure SummaryConfig where
  summaryTurnCount : Nat := 6

structure SummaryOutput where
  summary : Change StorySummary
  deriving DecidableEq

namespace SummaryPipeline

/-- `usize::saturating_sub` is the natural subtraction. -/
def coveredTurnCount (config : SummaryConfig) (context : StoryContext) : Nat :=
  if config.summaryTurnCount = 0 then 0
  else context.recentTurns.length + 1 - config.summaryTurnCount

section
variable (complete : PromptVars → Except PipelineError String)

/-- `complete` renders the prompt and asks the model. -/
def summarizeStory (context : StoryContext) (coveredTurns : Nat) : Except PipelineError String := do
  let summaryText ← complete (summaryVars context coveredTurns)
  let summaryText := RustText.trim summaryText
  if summaryText = "" then .error (.emptyOutput .summary) else return summaryText

/-- `none` is the panic of an index out of bounds. -/
def execute (config : SummaryConfig) (context : StoryContext) :
    Option (Except PipelineError SummaryOutput) :=
  let coveredTurns := coveredTurnCount config context
  if coveredTurns = 0 then some (.ok ⟨.unchanged⟩)
  else do
    let last ← context.recentTurns[coveredTurns - 1]?
    return do
      let text ← summarizeStory complete context coveredTurns
      return ⟨.replaced ⟨text, last.turnNumber⟩⟩

end
end SummaryPipeline

/-- The commit carries what the stage made of the context it is committed to. -/
def Summarised (config : SummaryConfig) (context : StoryContext) (turn : StoryCommit) : Prop :=
  ∃ complete output, SummaryPipeline.execute complete config context = some (.ok output) ∧
    turn.summary = output.summary

/-- The recent turns are exactly the turns the summary does not cover, and few. -/
structure StoredStory.Covered (length : Nat) (log : List StoryCommit) (story : StoredStory) :
    Prop where
  window : story.context.recentTurns = (log.map (·.turn)).drop story.context.coveredThrough
  short : log.length - story.context.coveredThrough ≤ length

namespace SummaryPipeline
variable {config : SummaryConfig} {context : StoryContext}
  {complete : PromptVars → Except PipelineError String}

theorem coveredTurnCount_pos (positive : 1 ≤ config.summaryTurnCount) :
    coveredTurnCount config context = context.recentTurns.length + 1 - config.summaryTurnCount := by
  rw [coveredTurnCount, if_neg (by omega)]

theorem coveredTurnCount_le (positive : 1 ≤ config.summaryTurnCount) (context : StoryContext) :
    coveredTurnCount config context ≤ context.recentTurns.length := by
  rw [coveredTurnCount_pos positive]
  omega

/-- The index `covered_turns - 1` is always in bounds. -/
theorem execute_isSome (positive : 1 ≤ config.summaryTurnCount) :
    (execute complete config context).isSome := by
  unfold execute
  dsimp only
  split
  · rfl
  · rename_i some_covered
    have bound := coveredTurnCount_le positive context
    rw [List.getElem?_eq_getElem (by omega)]
    rfl

/-- What a successful run says: nothing to cover, or a text made from the first
turns of the window, which it then covers. -/
theorem execute_ok (executed : execute complete config context = some (.ok output)) :
    (coveredTurnCount config context = 0 ∧ output.summary = .unchanged) ∨
    ∃ summary last, output.summary = .replaced summary ∧
      1 ≤ coveredTurnCount config context ∧
      context.recentTurns[coveredTurnCount config context - 1]? = some last ∧
      summary.coveredThrough = last.turnNumber ∧
      summarizeStory complete context (coveredTurnCount config context) = .ok summary.text := by
  unfold execute at executed
  dsimp only at executed
  split at executed
  · rename_i none_covered
    cases executed
    exact .inl ⟨none_covered, rfl⟩
  · rename_i some_covered
    obtain ⟨last, found, executed⟩ := Option.bind_eq_some_iff.mp executed
    cases text : summarizeStory complete context (coveredTurnCount config context) with
    | error error =>
      rw [text] at executed
      cases executed
    | ok text' =>
      rw [text] at executed
      cases executed
      exact .inr ⟨_, last, rfl, by omega, found, rfl, rfl⟩

/-- On a window that follows the summary, the stage covers exactly the turns it was
asked to fold in. -/
theorem execute_covers {turns : List Turn}
    (formed : Journal.WellFormed Turn.idempotencyKey (·.turnNumber.value) turns)
    (window : context.recentTurns = turns.drop context.coveredThrough)
    (executed : execute complete config context = some (.ok output))
    (replaced : output.summary = .replaced summary) :
    summary.coveredThrough.value =
      context.coveredThrough + coveredTurnCount config context := by
  rcases execute_ok executed with ⟨_, unchanged⟩ | ⟨summary', last, same, count, found, covers, _⟩
  · rw [unchanged] at replaced
    contradiction
  · cases replaced.symm.trans same
    rw [window] at found
    have numbered := formed.number_drop found
    rw [covers, numbered]
    omega

end SummaryPipeline

namespace StoredStory
variable {story : StoredStory} {turn : StoryCommit} {store : StoryStoreConfig}
  {config : SummaryConfig} {log : List StoryCommit}

theorem Recorded.turns (recorded : Recorded maximum log story) :
    Journal.WellFormed Turn.idempotencyKey (·.turnNumber.value) (log.map (·.turn)) :=
  Journal.WellFormed.map_iff.mpr recorded.journal

/-- A summarised commit moves the cover by as many turns as the stage folded in. -/
theorem Covered.coverage (recorded : Recorded maximum log story) (covered : Covered n log story)
    (summarised : Summarised config story.context turn) (store : StoryStoreConfig)
    (now : DateTime) : (story.record store now turn).context.coveredThrough =
      story.context.coveredThrough + SummaryPipeline.coveredTurnCount config story.context := by
  obtain ⟨complete, output, executed, carried⟩ := summarised
  rw [record_coveredThrough, carried]
  cases replaced : output.summary with
  | replaced summary =>
    exact SummaryPipeline.execute_covers recorded.turns covered.window executed replaced
  | unchanged =>
    rcases SummaryPipeline.execute_ok executed with ⟨none_covered, _⟩ | ⟨_, _, same, _⟩
    · rw [none_covered]
      rfl
    · rw [replaced] at same
      contradiction

theorem Covered.step (positive : 1 ≤ config.summaryTurnCount)
    (room : config.summaryTurnCount ≤ store.maxRecentTurns)
    (recorded : Recorded store.maxRecentTurns log story)
    (covered : Covered config.summaryTurnCount log story) (accepts : story.Accepts turn)
    (summarised : Summarised config story.context turn) (now : DateTime) :
    Covered config.summaryTurnCount (log ++ [turn]) (story.record store now turn) := by
  have moved := covered.coverage recorded summarised store now
  have recent : story.context.recentTurns.length = log.length - story.context.coveredThrough := by
    simp [covered.window]
  have bound := recorded.covered
  rw [SummaryPipeline.coveredTurnCount_pos positive, recent] at moved
  constructor
  · rw [recorded.window_snoc accepts covered.window bound]
    congr 1
    -- The count trim never reaches past the cover, because the store keeps at least
    -- as many turns as the summary leaves.
    omega
  · rw [List.length_append, List.length_singleton]
    omega

theorem Lineage.covered (positive : 1 ≤ config.summaryTurnCount)
    (room : config.summaryTurnCount ≤ store.maxRecentTurns)
    (lineage : Lineage store (Summarised config) spec log story) :
    Covered config.summaryTurnCount log story := by
  induction lineage with
  | created => exact ⟨rfl, by simp⟩
  | committed now before accepts _ summarised ih =>
    exact ih.step positive room before.recorded accepts summarised now

/-- A committed turn is in the summary or in the window. -/
theorem Covered.no_gap {key : IdempotencyKey} (recorded : Recorded maximum log story)
    (covered : Covered n log story) (found : story.committed[key]? = some turn) :
    turn.turn.turnNumber.value ≤ story.context.coveredThrough ∨
      turn.turn ∈ story.context.recentTurns := by
  have logged := ((recorded.index key turn).mp found).1
  obtain ⟨i, bound, rfl⟩ := List.getElem_of_mem logged
  rw [recorded.journal.number_get bound, covered.window]
  by_cases summarised : i + 1 ≤ story.context.coveredThrough
  · exact .inl summarised
  · refine .inr (List.mem_iff_getElem?.mpr ⟨i - story.context.coveredThrough, ?_⟩)
    rw [List.getElem?_drop, Nat.add_sub_cancel' (by omega)]
    simp [bound]

/-- A new summary is made from the turns after the old cover, up to the new one. -/
theorem Covered.summary_source (positive : 1 ≤ config.summaryTurnCount)
    (recorded : Recorded maximum log story) (covered : Covered n log story)
    (executed : SummaryPipeline.execute complete config story.context = some (.ok output))
    (replaced : output.summary = .replaced summary) :
    ∃ count reply, complete (summaryVars story.context count) = .ok reply ∧
      summary.text = RustText.trim reply ∧
      (story.context.recentTurns.take count).map (·.turnNumber.value) =
        List.range' (story.context.coveredThrough + 1)
          (summary.coveredThrough.value - story.context.coveredThrough) := by
  have covers :=
    SummaryPipeline.execute_covers recorded.turns covered.window executed replaced
  rcases SummaryPipeline.execute_ok executed with ⟨_, unchanged⟩ | ⟨summary', _, same, _, _, _, told⟩
  · rw [unchanged] at replaced
    contradiction
  cases replaced.symm.trans same
  obtain ⟨reply, completed, told⟩ := Result.bind_eq_ok told
  have text : summary.text = RustText.trim reply := by
    dsimp only at told
    split at told
    · contradiction
    · exact (Except.ok.inj told).symm
  refine ⟨_, reply, completed, text, ?_⟩
  have numbers := recorded.turns.window_numbers (List.drop_suffix story.context.coveredThrough _)
  rw [← covered.window, List.length_map] at numbers
  have recent : story.context.recentTurns.length = log.length - story.context.coveredThrough := by
    simp [covered.window]
  have bound := SummaryPipeline.coveredTurnCount_le positive story.context
  have count : summary.coveredThrough.value - story.context.coveredThrough =
      SummaryPipeline.coveredTurnCount config story.context := by omega
  rw [List.map_take, numbers, List.take_range'_of_length_ge bound, count]
  congr 1
  have := recorded.covered
  omega

end StoredStory

namespace StoryStoreMem
variable {storyConfig : StoryStoreConfig} {config : SummaryConfig} {store : StoryStoreMem}
  {storyId : StoryId} {story : StoredStory}

/-- No turn text is lost between the summary and the recent turns. -/
theorem summaries_lose_no_turn (positive : 1 ≤ config.summaryTurnCount)
    (room : config.summaryTurnCount ≤ storyConfig.maxRecentTurns)
    (run : Run storyConfig storyId (fun _ => True) (Summarised config) store)
    (found : store.stories[storyId]? = some story) :
    (∀ number, 1 ≤ number → number ≤ story.context.turnNumber.value →
      number ≤ story.context.coveredThrough ∨
      ∃ turn ∈ story.context.recentTurns, turn.turnNumber.value = number) ∧
    (∀ (key : IdempotencyKey) (turn : StoryCommit), story.committed[key]? = some turn →
      turn.turn.turnNumber.value ≤ story.context.coveredThrough ∨
      turn.turn ∈ story.context.recentTurns) ∧
    story.context.recentTurns.length ≤ config.summaryTurnCount ∧
    (∀ complete, (SummaryPipeline.execute complete config story.context).isSome) ∧
    (∀ complete output summary,
      SummaryPipeline.execute complete config story.context = some (.ok output) →
      output.summary = .replaced summary →
      ∃ count reply, complete (summaryVars story.context count) = .ok reply ∧
        summary.text = RustText.trim reply ∧
        (story.context.recentTurns.take count).map (·.turnNumber.value) =
          List.range' (story.context.coveredThrough + 1)
            (summary.coveredThrough.value - story.context.coveredThrough)) := by
  obtain ⟨spec, log, _, _, lineage⟩ := run.lineage.2 story found
  have recorded := lineage.recorded
  have covered := lineage.covered positive room
  refine ⟨?_, ?_, ?_, ?_, ?_⟩
  · intro number first last
    obtain ⟨turn, ⟨⟨key, committed⟩, rfl⟩, _⟩ := recorded.exactlyOnce.unique number first last
    exact (covered.no_gap recorded committed).imp_right fun recent => ⟨turn.turn, recent, rfl⟩
  · intro key turn committed
    exact covered.no_gap recorded committed
  · rw [covered.window, List.length_drop, List.length_map]
    exact covered.short
  · intro complete
    exact SummaryPipeline.execute_isSome positive
  · intro complete output summary executed replaced
    exact covered.summary_source positive recorded executed replaced

end StoryStoreMem

namespace Sample

/-- A model that always answers the same. -/
def reply : PromptVars → Except PipelineError String := fun _ => .ok "So far the road was long."

/-- With a window of one turn, the second commit already carries a summary. -/
def summarising : List StoreOp :=
  [.create now spec, .commit now (commit 1 keyA),
    .commit now { commit 2 keyB with
      summary := .replaced ⟨"So far the road was long.", ⟨1⟩⟩ }]

def summarised : StoryStoreMem :=
  StoryStoreMem.performAll summarising (StoryStoreMem.withConfig ⟨1⟩)

end Sample

namespace StoryStoreMem

theorem summaries_lose_no_turn_sample :
    ∃ story, Sample.summarised.stories[Sample.storyId]? = some story ∧
      story.context.turnNumber.value = 2 ∧ story.context.coveredThrough = 1 ∧
      story.context.recentTurns.length ≤ 1 := by
  have run : Run ⟨1⟩ Sample.storyId (fun _ => True) (Summarised ⟨1⟩) Sample.summarised := by
    have executes : ∀ (store : StoryStoreMem) (turn : StoryCommit),
        store.stories[Sample.storyId]?.all (fun story =>
          SummaryPipeline.execute Sample.reply ⟨1⟩ story.context = some (.ok ⟨turn.summary⟩)) →
        ∀ story, store.stories[Sample.storyId]? = some story → Summarised ⟨1⟩ story.context turn := by
      intro store turn all story found
      have executed := (Option.all_eq_true _ _).mp all story found
      exact ⟨Sample.reply, ⟨turn.summary⟩, of_decide_eq_true executed, rfl⟩
    exact run_performAll ⟨1⟩ ⟨fun _ => trivial, fun _ => executes _ _ (by decide),
      fun _ => executes _ _ (by decide), trivial⟩
  have state : Sample.summarised.stories[Sample.storyId]?.map (fun story =>
      (story.context.turnNumber.value, story.context.coveredThrough)) = some (2, 1) := by decide
  obtain ⟨story, found, same⟩ := Option.map_eq_some_iff.mp state
  obtain ⟨two, one⟩ := Prod.mk.inj same
  have kept := summaries_lose_no_turn le_rfl le_rfl run found
  exact ⟨story, found, two, one, kept.2.2.1⟩

end StoryStoreMem
end Aise
