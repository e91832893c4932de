import Aise.Pipeline.Baseline
import Aise.Pipeline.Generate.Roles

/-! The prompt of a character's decision. It shows the story, the player's contribution,
the rumors of the turn, and of the roles the one that decides: nothing another role keeps
to itself reaches it, neither directly nor through the activation or the retrieval that
come before it. -/
namespace Aise
open Masking

/-- What `ThinkConfig` bounds in the prompt, besides the output. -/
structure ThinkPromptConfig extends ThinkConfig where
  maxProfileBytes : Nat := 4 * 1024
  maxBackstoryBytes : Nat := 4 * 1024
  maxMemoriesInPrompt : Nat := 8
  maxSeedMemoryBytes : Nat := 8 * 1024
  maxRumorBytes : Nat := 8 * 1024

structure PromptSpec where
  promptId : String
  vars : PromptVars
  deriving DecidableEq

namespace Think
open GenerateRoles (jsonText jsonString)

/-- One item of a list in the prompt; `none` is the end of the list. -/
def appendItem (maximumBytes : Nat) (rendered content : String) : Option String :=
  let item := "- " ++ jsonString content
  let separator := if rendered = "" then "" else "\n"
  if saturatingAdd (saturatingAdd (RustText.len rendered) (RustText.len separator))
      (RustText.len item) > maximumBytes then none
  else some (rendered ++ separator ++ item)

def renderItems (maximumBytes : Nat) (rendered : String) : List String → String
  | [] => rendered
  | content :: rest =>
    match appendItem maximumBytes rendered content with
    | none => rendered
    | some rendered => renderItems maximumBytes rendered rest

/-- `think_context::memories`. -/
def memories (role : RoleEntry) (config : ThinkPromptConfig) : String :=
  renderItems config.maxSeedMemoryBytes ""
    ((role.memories.toList.take config.maxMemoriesInPrompt).map (·.2.body.content.value))

/-- `think_context::rumors`. -/
def rumors (activated retrieved : List RumorEntry) (config : ThinkPromptConfig) : String :=
  renderItems config.maxRumorBytes "" ((activated ++ retrieved).map (·.body.content.value))

def serializeProfile (role : RoleEntry) : String := jsonText role.profile.toJson

def serializeAliases (role : RoleEntry) : String :=
  jsonText (GenerateRoles.aliasesJson role.spec.aliases)

def validateContext (role : RoleEntry) (profile : String) (config : ThinkPromptConfig) :
    Except PipelineError Unit := do
  rejectIf (RustText.len profile > config.maxProfileBytes) (inconsistent "think_profile_too_long"
    s!"serialized profile size {RustText.len profile} exceeds maximum {config.maxProfileBytes}")
  let backstoryBytes := RustText.len role.spec.backstory.value
  rejectIf (backstoryBytes > config.maxBackstoryBytes) (inconsistent "think_backstory_too_long"
    s!"backstory size {backstoryBytes} exceeds maximum {config.maxBackstoryBytes}")

def characterDecision (config : ThinkPromptConfig) (context : StoryContext) (input : ThinkInput)
    (request : CharacterThinkRequest) (role : RoleEntry) : Except PipelineError PromptSpec := do
  let profile := serializeProfile role
  validateContext role profile config
  return {
    promptId := "think.character_decision"
    vars := [
      ("story_summary", (storySummary context).getD ""),
      ("story_opening", storyOpening context),
      ("recent_story", turnsStory context.recentTurns),
      ("player_contribution", input.playerContribution.processed),
      ("rumors", rumors input.activatedRumors input.retrievedRumors config),
      ("target_role_id", role.id.value),
      ("target_name", role.spec.name.value),
      ("target_aliases", serializeAliases role),
      ("target_profile", profile),
      ("target_backstory", role.spec.backstory.value),
      ("target_memories", memories role config),
      ("thinking_focus", request.thinkingFocus.value)] }

/-- The prompt the stage makes for one of its requests, once it has checked them all. -/
def decisionPrompt (config : ThinkPromptConfig) (input : ThinkInput)
    (request : CharacterThinkRequest) (context : StoryContext) :
    Except PipelineError PromptSpec := do
  let _ ← validateInput input context
  let role ← resolveRequest context request
  characterDecision config context input request role

variable {target : RoleId}

theorem resolveRequest_blind (request : CharacterThinkRequest) (asked : request.roleId = target) :
    Blind (StoryContext.hideFrom target) (resolveRequest · request) := by
  subst asked
  intro context
  have own : (context.hideFrom request.roleId).roles[request.roleId]? =
      context.roles[request.roleId]? := StoryContext.role_blind context
  simp only [resolveRequest, own]

/-- Of any role asked for, the checks see that it is there. -/
theorem resolveRequest_verdict (request : CharacterThinkRequest) (context : StoryContext) :
    Result.verdict (resolveRequest context request) =
      Result.okOr (context.roles[request.roleId]?.map fun _ => ())
        (inconsistent "think_resolved_role_missing"
          s!"role ID {request.roleId} is missing from the story context") := by
  unfold resolveRequest
  cases context.roles[request.roleId]? with
  | none => rfl
  | some role => rfl

theorem validateRequest_blind (request : CharacterThinkRequest) :
    Blind (StoryContext.hideFrom target) fun context =>
      Result.verdict (validateRequest context request) := by
  intro context
  have shown : (context.hideFrom target).roles[request.roleId]?.map (fun _ => ()) =
      context.roles[request.roleId]?.map fun _ => () :=
    StoryContext.public_blind (fun _ => rfl) request.roleId context
  refine Result.verdict_bind rfl fun _ _ => ?_
  rw [resolveRequest_verdict, resolveRequest_verdict, shown]

theorem validateInput_blind (input : ThinkInput) :
    Blind (StoryContext.hideFrom target) fun context =>
      Result.verdict (validateInput input context) :=
  Blind.distinct validateRequest_blind input.requests []

theorem decisionPrompt_blind (config : ThinkPromptConfig) (input : ThinkInput)
    (request : CharacterThinkRequest) (asked : request.roleId = target) :
    Blind (StoryContext.hideFrom target) (decisionPrompt config input request) := by
  refine Blind.check_bind (validateInput_blind input) ?_
  refine (resolveRequest_blind request asked).bind fun role => ?_
  exact fun _ => rfl

end Think

namespace BaselinePipeline

/-- What the think stage is given, from the contribution and the plan of a turn. -/
def thinkInput (pipeline : BaselinePipeline) (packs : PackStoreMem)
    (contribution : PlayerContribution) (planOutput : PlanOutput) (context : StoryContext) :
    Except PipelineError ThinkInput := do
  let knowledge ← pipeline.knowledgeOf packs contribution context
  let retrieved ← Runtime.retrievalFor planOutput context
  return {
    requests := planOutput.characterThinkRequests
    playerContribution := contribution
    activatedRumors := knowledge.rumors
    retrievedRumors := retrieved.rumors }

/-- This is what a turn thinks on. -/
theorem prepare_thinkInput {runtime : Runtime} {pipeline : BaselinePipeline}
    (stage : runtime.baseline = pipeline.execute)
    (prepared : runtime.prepare context request packs = .ok commit) :
    ∃ output planOutput input decisions,
      pipeline.execute request.playerInput context packs = .ok output ∧
      runtime.plan
        { playerContribution := output.playerContribution
          directions := output.narrative.directions
          constraints := output.narrative.constraints
          knowledge := output.knowledge } context = .ok planOutput ∧
      pipeline.thinkInput packs output.playerContribution planOutput context = .ok input ∧
      runtime.thinkFor planOutput input context = .ok decisions := by
  obtain ⟨output, executed, prepared⟩ := Result.bind_eq_ok prepared
  obtain ⟨planOutput, planned, prepared⟩ := Result.bind_eq_ok prepared
  obtain ⟨retrieved, found, prepared⟩ := Result.bind_eq_ok prepared
  obtain ⟨decisions, thought, _⟩ := Result.bind_eq_ok prepared
  rw [stage] at executed
  refine ⟨output, planOutput, _, decisions, executed, planned, ?_, thought⟩
  rw [thinkInput, execute_knowledge executed]
  simp only [bind, Except.bind, found]
  rfl

/-- The prompt of a request of the plan, the whole way from the contribution. -/
def decisionPrompt (pipeline : BaselinePipeline) (config : ThinkPromptConfig)
    (packs : PackStoreMem) (contribution : PlayerContribution) (planOutput : PlanOutput)
    (request : CharacterThinkRequest) (context : StoryContext) :
    Except PipelineError PromptSpec := do
  let input ← pipeline.thinkInput packs contribution planOutput context
  Think.decisionPrompt config input request context

variable {target : RoleId} (pipeline : BaselinePipeline)

theorem retrievalFor_blind (planOutput : PlanOutput) :
    Blind (StoryContext.hideFrom target) (Runtime.retrievalFor planOutput) :=
  fun _ => rfl

theorem decisionPrompt_blind (config : ThinkPromptConfig) (packs : PackStoreMem)
    (contribution : PlayerContribution) (planOutput : PlanOutput)
    (request : CharacterThinkRequest) (asked : request.roleId = target) :
    Blind (StoryContext.hideFrom target)
      (pipeline.decisionPrompt config packs contribution planOutput request) := by
  refine Blind.bind ?_ fun input => Think.decisionPrompt_blind config input request asked
  refine (pipeline.knowledgeOf_blind packs contribution).bind fun knowledge => ?_
  exact (retrievalFor_blind planOutput).bind fun retrieved => fun _ => rfl

/-- Two stories that differ only in what the other roles keep to themselves activate the
same knowledge, retrieve the same entries and ask for a role's decision with the same
prompt. The baseline stage as a whole is the same for them, and what the prompts are made of is
what a turn thinks on. -/
theorem decision_private {context other : StoryContext}
    (same : StoryContext.SamePublic target context other) (config : ThinkPromptConfig)
    (packs : PackStoreMem) (contribution : PlayerContribution) (planOutput : PlanOutput) :
    pipeline.knowledgeOf packs contribution context =
        pipeline.knowledgeOf packs contribution other ∧
      Runtime.retrievalFor planOutput context = Runtime.retrievalFor planOutput other ∧
      (∀ request : CharacterThinkRequest, request.roleId = target →
        pipeline.decisionPrompt config packs contribution planOutput request context =
          pipeline.decisionPrompt config packs contribution planOutput request other) ∧
      (∀ playerInput : String,
        pipeline.execute playerInput context packs = pipeline.execute playerInput other packs) ∧
      ∀ (runtime : Runtime) (request : TurnRequest) (commit : CommitInput),
        runtime.baseline = pipeline.execute → runtime.prepare context request packs = .ok commit →
        ∃ output plan input decisions,
          pipeline.execute request.playerInput context packs = .ok output ∧
          runtime.plan
            { playerContribution := output.playerContribution
              directions := output.narrative.directions
              constraints := output.narrative.constraints
              knowledge := output.knowledge } context = .ok plan ∧
          pipeline.thinkInput packs output.playerContribution plan context = .ok input ∧
          runtime.thinkFor plan input context = .ok decisions := by
  have alike := StoryContext.hideFrom_eq_iff.mpr same
  refine ⟨?_, ?_, fun request asked => ?_, fun playerInput => ?_, ?_⟩
  · exact (pipeline.knowledgeOf_blind packs contribution).agree alike
  · exact (retrievalFor_blind planOutput).agree alike
  · exact (pipeline.decisionPrompt_blind config packs contribution planOutput request
      asked).agree alike
  · exact (pipeline.execute_blind packs playerInput).agree alike
  · exact fun runtime request commit stage prepared => prepare_thinkInput stage prepared

end BaselinePipeline

/-! The hero travels with the player's role, who has something to hide. -/
namespace Sample

def pilgrim : RoleId := ⟨"pilgrim", by decide⟩

def traveller : RoleEntry where
  id := hero
  origin := .seed
  spec := { name := ⟨"Hero"⟩, backstory := ⟨"Raised on a ferry."⟩, retrieval := hint }
  profile := {}

def companion (secret : String) : RoleEntry where
  id := pilgrim
  origin := .seed
  spec :=
    { name := ⟨"Pilgrim"⟩, aliases := [⟨secret⟩], backstory := ⟨secret⟩, retrieval := hint }
  profile := { personality := some ⟨secret⟩ }
  memories := (∅ : BTreeMap .memory MemoryEntry).insert memoryId ⟨memoryId, .seed, body secret⟩

def walk (secret : String) : StoryContext where
  storyId := storyId
  packRef := packRef
  opening := ⟨"Two set out."⟩
  roles := ((∅ : BTreeMap .role RoleEntry).insert hero traveller).insert pilgrim (companion secret)
  facts := ∅
  rumors := (∅ : BTreeMap .rumor RumorEntry).insert rumorId
    ⟨rumorId, .seed, { body "A wolf is near." with activation := { mode := { constant := true } } }⟩
  player := pilgrim
  turnNumber := ⟨0⟩
  summary := none
  recentTurns := []
  lifeCycle := .active
  narrative := {}

theorem walk_same_public (first second : String) :
    StoryContext.SamePublic hero (walk first) (walk second) := by
  have apart : pilgrim ≠ hero := by decide
  refine ⟨rfl, ?_, fun roleId _ => ?_⟩
  · simp only [walk, OrdMap.get_insert, if_neg apart]
  · simp only [walk, OrdMap.get_insert]
    split
    · rfl
    · rfl

def heroAsked : CharacterThinkRequest := ⟨hero, ⟨"the companion"⟩⟩

def walkPlan : PlanOutput where
  storyGoal := ⟨"Walk on."⟩
  factsToRetrieve := []
  rumorsToRetrieve := [rumorId]
  rolesForGeneration := [hero]
  characterThinkRequests := [heroAsked]

def asking : BaselinePipeline where
  ask _ := .ok "We walk."
  tables := Activation.Sample.ascii
  sha256 := Activation.Sample.zeros

def walkPrompt (secret : String) : Except PipelineError PromptSpec :=
  asking.decisionPrompt {} lent ⟨"walk", "We walk."⟩ walkPlan heroAsked (walk secret)

theorem walkPrompt_made : (walkPrompt "A thief.").toOption.isSome = true := by
  decide +kernel

end Sample

theorem BaselinePipeline.decision_private_sample :
    ∃ prompt, Sample.walkPrompt "A thief." = .ok prompt ∧
      Sample.walkPrompt "A prince." = .ok prompt := by
  have same := (Sample.asking.decision_private (Sample.walk_same_public "A thief." "A prince.") {}
    Sample.lent ⟨"walk", "We walk."⟩ Sample.walkPlan).2.2.1 Sample.heroAsked rfl
  have made := Result.eq_ok_of_isSome Sample.walkPrompt_made ⟨"", []⟩
  exact ⟨_, made, same.symm.trans made⟩

end Aise
