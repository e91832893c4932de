import Aise.Core.Privacy
import Aise.Core.Activation.Engine
import Aise.Pipeline.Runtime

/-! The baseline stage: the pack of the story, what its narrative asks of the turn, the
contribution the model makes of the player's input, and the facts and rumors the turn's
text activates. Of the roles it reads the player's name. -/
namespace Aise
open Masking

inductive KnowledgeKey where
  | fact (id : FactId)
  | rumor (id : RumorId)
  deriving DecidableEq

namespace KnowledgeKey

/-- The derived `Ord`: facts before rumors. -/
def rank : KnowledgeKey → Nat ×ₗ String
  | .fact id => toLex (0, id.value)
  | .rumor id => toLex (1, id.value)

theorem rank_injective : Function.Injective rank := by
  intro a b same
  obtain ⟨kind, text⟩ := Prod.mk.inj (toLex.injective same)
  cases a with
  | fact id =>
    cases b with
    | fact other => rw [Ident.ext_value text]
    | rumor other => cases kind
  | rumor id =>
    cases b with
    | fact other => cases kind
    | rumor other => rw [Ident.ext_value text]

instance : LinearOrder KnowledgeKey := LinearOrder.lift' rank rank_injective

instance : ToString KnowledgeKey where
  toString
    | .fact id => s!"fact:{id}"
    | .rumor id => s!"rumor:{id}"

end KnowledgeKey

/-- `build_projection`. -/
def projectNarrative (pack : StoryPack) (context : StoryContext) :
    Except NarrativeError NarrativeProjection := do
  let plan ← match pack.narrative with
    | some graph => graph.plan context.narrative
    | none => pure { directions := [], constraints := [], queries := [] }
  return {
    directions := plan.directions
    constraints := pack.constraints ++ plan.constraints.map (·.forbid) }

structure KnowledgeScope where
  context : StoryContext
  playerContribution : PlayerContribution
  narrative : NarrativeProjection

namespace KnowledgeScope

def candidate (key : KnowledgeKey) (body : KnowledgeBody) : ActivationCandidate KnowledgeKey where
  key := key
  rule := body.activation
  content := body.content

/-- Facts, then rumors, each in the order of their identifiers. -/
def candidates (context : StoryContext) : List (ActivationCandidate KnowledgeKey) :=
  (context.facts.toList.map fun (id, entry) => candidate (.fact id) entry.body) ++
    context.rumors.toList.map fun (id, entry) => candidate (.rumor id) entry.body

def depth (value : Nat) : UInt16 := Activation.clampU16 value

section
variable (tables : CharTables)

def playerRoleName (context : StoryContext) : Option ScanFragment :=
  context.roles[context.player]?.map fun role =>
    .new tables .playerRoleName 0 role.spec.name.value

/-- The newest turn has depth one. -/
def recentStory (context : StoryContext) : List ScanFragment :=
  context.recentTurns.reverse.zipIdx.map fun (turn, order) =>
    .new tables .recentStory (depth (saturatingAdd order 1)) turn.turnSegment.text

def priorStory (context : StoryContext) : ScanFragment :=
  let priorStoryDepth := depth (saturatingAdd context.recentTurns.length 1)
  match context.summary.filter (!RustText.isBlank ·.text) with
  | none => .new tables .storyOpening priorStoryDepth context.opening.value
  | some summary => .new tables .storySummary priorStoryDepth summary.text

def buildScanBuffer (scope : KnowledgeScope) : ScanBuffer :=
  ScanBuffer.new <|
    [.new tables .playerContribution 0 scope.playerContribution.processed] ++
      (playerRoleName tables scope.context).toList ++
      (scope.narrative.directions.map fun direction =>
        .new tables .narrativeDirection 0 direction.dramaticFocus.value) ++
      recentStory tables scope.context ++ [priorStory tables scope.context]

def runActivation (sha256 : Sha256) (config : ActivationConfig) (scope : KnowledgeScope) :
    ActivationOutcome KnowledgeKey :=
  activate tables sha256 (candidates scope.context) (scope.buildScanBuffer tables)
    ⟨scope.context.storyId, scope.context.turnNumber⟩ config

end

def collectKnowledge (context : StoryContext) (outcome : ActivationOutcome KnowledgeKey) :
    ActivatedKnowledge where
  facts := outcome.activated.filterMap fun activated =>
    match activated.key with
    | .fact id => context.facts[id]?
    | .rumor _ => none
  rumors := outcome.activated.filterMap fun activated =>
    match activated.key with
    | .fact _ => none
    | .rumor id => context.rumors[id]?

def activateKnowledge (tables : CharTables) (sha256 : Sha256) (config : ActivationConfig)
    (scope : KnowledgeScope) : ActivatedKnowledge :=
  collectKnowledge scope.context (scope.runActivation tables sha256 config)

variable {tables : CharTables} {target : RoleId}

theorem playerRoleName_blind :
    Blind (StoryContext.hideFrom target) (playerRoleName tables) :=
  fun context => StoryContext.public_blind (fun _ => rfl) context.player context

theorem buildScanBuffer_blind (contribution : PlayerContribution) (narrative : NarrativeProjection) :
    Blind (StoryContext.hideFrom target) fun context =>
      buildScanBuffer tables ⟨context, contribution, narrative⟩ := by
  intro context
  have name : playerRoleName tables (context.hideFrom target) = playerRoleName tables context :=
    playerRoleName_blind context
  simp only [buildScanBuffer, name]
  rfl

/-- Neither a candidate nor a fragment of the scan comes from what roles keep to
themselves. -/
theorem activateKnowledge_blind (sha256 : Sha256) (config : ActivationConfig)
    (contribution : PlayerContribution) (narrative : NarrativeProjection) :
    Blind (StoryContext.hideFrom target) fun context =>
      activateKnowledge tables sha256 config ⟨context, contribution, narrative⟩ := by
  intro context
  have buffer : buildScanBuffer tables ⟨context.hideFrom target, contribution, narrative⟩ =
      buildScanBuffer tables ⟨context, contribution, narrative⟩ :=
    buildScanBuffer_blind contribution narrative context
  simp only [activateKnowledge, runActivation, buffer]
  rfl

end KnowledgeScope

/-- `ask` renders the prompt and asks the model for the contribution. -/
structure BaselinePipeline where
  ask : PromptVars → Except AskError String
  tables : CharTables
  sha256 : Sha256
  activation : ActivationConfig := {}

namespace BaselinePipeline

def loadStoryPack (context : StoryContext) (packs : PackStoreMem) :
    Except PipelineError StoryPack :=
  (packs.getPack context.packRef).mapError (.persistence .baseline)

def playerInputVars (context : StoryContext) (playerInput : String) : PromptVars := [
  ("player_input", playerInput),
  ("story_summary", (storySummary context).getD ""),
  ("story_opening", storyOpening context),
  ("recent_story", turnsStory context.recentTurns)]

def processPlayerInput (pipeline : BaselinePipeline) (playerInput : String)
    (context : StoryContext) : Except PipelineError PlayerContribution :=
  match pipeline.ask (playerInputVars context playerInput) with
  | .error error => .error (error.at .baseline)
  | .ok content => .ok { raw := playerInput, processed := content }

def activateKnowledge (pipeline : BaselinePipeline) (context : StoryContext)
    (contribution : PlayerContribution) (narrative : NarrativeProjection) : ActivatedKnowledge :=
  KnowledgeScope.activateKnowledge pipeline.tables pipeline.sha256 pipeline.activation
    ⟨context, contribution, narrative⟩

def execute (pipeline : BaselinePipeline) (playerInput : String) (context : StoryContext)
    (packs : PackStoreMem) : Except PipelineError BaselineOutput := do
  let pack ← loadStoryPack context packs
  let narrative ← (projectNarrative pack context).mapError (.narrative .baseline)
  let playerContribution ← pipeline.processPlayerInput playerInput context
  return {
    playerContribution
    narrative
    knowledge := pipeline.activateKnowledge context playerContribution narrative }

/-- What is activated once the contribution is there. -/
def knowledgeOf (pipeline : BaselinePipeline) (packs : PackStoreMem)
    (contribution : PlayerContribution) (context : StoryContext) :
    Except PipelineError ActivatedKnowledge := do
  let pack ← loadStoryPack context packs
  let narrative ← (projectNarrative pack context).mapError (.narrative .baseline)
  return pipeline.activateKnowledge context contribution narrative

theorem execute_knowledge {pipeline : BaselinePipeline}
    (executed : pipeline.execute playerInput context packs = .ok output) :
    pipeline.knowledgeOf packs output.playerContribution context = .ok output.knowledge := by
  obtain ⟨pack, loaded, executed⟩ := Result.bind_eq_ok executed
  obtain ⟨narrative, projected, executed⟩ := Result.bind_eq_ok executed
  obtain ⟨contribution, _, executed⟩ := Result.bind_eq_ok executed
  cases executed
  rw [knowledgeOf, loaded]
  simp only [bind, Except.bind, projected]
  rfl

variable {target : RoleId} (pipeline : BaselinePipeline) (packs : PackStoreMem)

theorem loadStoryPack_blind : Blind (StoryContext.hideFrom target) (loadStoryPack · packs) :=
  fun _ => rfl

theorem projectNarrative_blind (pack : StoryPack) :
    Blind (StoryContext.hideFrom target) fun context =>
      (projectNarrative pack context).mapError (PipelineError.narrative .baseline) :=
  fun _ => rfl

theorem processPlayerInput_blind (playerInput : String) :
    Blind (StoryContext.hideFrom target) (pipeline.processPlayerInput playerInput) :=
  fun _ => rfl

theorem knowledgeOf_blind (contribution : PlayerContribution) :
    Blind (StoryContext.hideFrom target) (pipeline.knowledgeOf packs contribution) := by
  refine (loadStoryPack_blind packs).bind fun pack => ?_
  refine (projectNarrative_blind pack).bind fun narrative => ?_
  exact (KnowledgeScope.activateKnowledge_blind _ _ contribution narrative).map pure

/-- The stage as a whole, the model's answer included. -/
theorem execute_blind (playerInput : String) :
    Blind (StoryContext.hideFrom target) (pipeline.execute playerInput · packs) := by
  refine (loadStoryPack_blind packs).bind fun pack => ?_
  refine (projectNarrative_blind pack).bind fun narrative => ?_
  refine (pipeline.processPlayerInput_blind playerInput).bind fun contribution => ?_
  exact (KnowledgeScope.activateKnowledge_blind _ _ contribution narrative).map fun knowledge =>
    pure (BaselineOutput.mk contribution narrative knowledge)

end BaselinePipeline
end Aise
