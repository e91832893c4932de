import Aise.Lib.Distinct
import Aise.Pipeline.Runtime
import Aise.Pipeline.Validate.Report

/-! Planning a turn: what the model may choose from, and the checks on what it chose. -/
namespace Aise

structure PlanConfig where
  maxRetrievalCandidatesPerKind : Nat := 32
  maxStoryGoalBytes : Nat := 512
  maxRolesForGeneration : Nat := 16
  maxCharacterThinkRequests : Nat := 8
  maxThinkingFocusBytes : Nat := 512

structure RetrievalCandidate (kind : IdKind) where
  id : Ident kind
  retrievalHint : RetrievalHint

structure PlanCandidates where
  facts : List (RetrievalCandidate .fact)
  rumors : List (RetrievalCandidate .rumor)

def PlanCandidates.containsFact (candidates : PlanCandidates) (id : FactId) : Bool :=
  candidates.facts.any (·.id = id)

def PlanCandidates.containsRumor (candidates : PlanCandidates) (id : RumorId) : Bool :=
  candidates.rumors.any (·.id = id)

/-- The entries of one kind that are not active yet, up to the limit. -/
def candidatesOf (hint : V → RetrievalHint) (activated : List (Ident kind)) (limit : Nat)
    (entries : BTreeMap kind V) : List (RetrievalCandidate kind) :=
  ((entries.toList.filter fun (id, _) => !activated.contains id).take limit).map
    fun (id, entry) => ⟨id, hint entry⟩

def collectCandidates (context : StoryContext) (activated : ActivatedKnowledge) (limit : Nat) :
    PlanCandidates where
  facts := candidatesOf (·.body.retrieval) (activated.facts.map (·.id)) limit context.facts
  rumors := candidatesOf (·.body.retrieval) (activated.rumors.map (·.id)) limit context.rumors

structure RoleCatalogEntry where
  roleId : RoleId
  name : BoundedText
  aliases : List BoundedText
  retrievalHint : RetrievalHint

def collectRoleCatalog (context : StoryContext) (playerRole : RoleId) : List RoleCatalogEntry :=
  (context.roles.toList.filter fun (roleId, _) => roleId ≠ playerRole).map fun (roleId, role) =>
    ⟨roleId, role.spec.name, role.spec.aliases, role.spec.retrieval⟩

def resolvePlayerRole (context : StoryContext) : Except PipelineError RoleEntry :=
  match context.roles[context.player]? with
  | some role => .ok role
  | none => .error (.inconsistentData .plan "plan_player_role_missing"
      s!"player role ID {context.player} is missing from the story context")

def containsRole (catalog : List RoleCatalogEntry) (roleId : RoleId) : Bool :=
  catalog.any (·.roleId = roleId)

structure CharacterThinkRequestDto where
  roleId : RoleId
  thinkingFocus : String

structure PlanLlmOutputDto where
  storyGoal : String
  factsToRetrieve : List FactId
  rumorsToRetrieve : List RumorId
  rolesForGeneration : List RoleId
  characterThinkRequests : List CharacterThinkRequestDto

namespace PlanLlm

def invalidOutput (code message : String) : PipelineError := .invalidOutput .plan code message

/-- The loop over selected identifiers of one kind. -/
def validateIds (offered : Ident kind → Bool) (duplicate unknown : PipelineError)
    (ids : List (Ident kind)) : Except PipelineError (List Unit) :=
  Distinct.each id (fun _ => .ok ()) (fun _ => duplicate)
    (fun id => rejectIf (!offered id) unknown) [] ids

def validateFactIds (ids : List FactId) (candidates : PlanCandidates) :
    Except PipelineError (List Unit) :=
  validateIds candidates.containsFact
    (invalidOutput "plan_duplicate_fact_id" "duplicate fact ID selected")
    (invalidOutput "plan_unknown_fact_id" "selected fact ID was not offered") ids

def validateRumorIds (ids : List RumorId) (candidates : PlanCandidates) :
    Except PipelineError (List Unit) :=
  validateIds candidates.containsRumor
    (invalidOutput "plan_duplicate_rumor_id" "duplicate rumor ID selected")
    (invalidOutput "plan_unknown_rumor_id" "selected rumor ID was not offered") ids

def validateGenerationRole (catalog : List RoleCatalogEntry) (playerRole roleId : RoleId) :
    Except PipelineError Unit := do
  rejectIf (roleId = playerRole) (invalidOutput "plan_player_generation_role_forbidden"
    "player role cannot be selected for generation")
  rejectIf (!containsRole catalog roleId) (invalidOutput "plan_unknown_generation_role_id"
    "selected generation role ID was not offered")

def validateGenerationRoles (roleIds : List RoleId) (catalog : List RoleCatalogEntry)
    (playerRole : RoleId) (config : PlanConfig) : Except PipelineError (List Unit) := do
  rejectIf (roleIds.length > config.maxRolesForGeneration)
    (invalidOutput "plan_too_many_generation_roles"
      "generation role selection exceeds the configured limit")
  Distinct.each id (fun _ => .ok ())
    (fun _ => invalidOutput "plan_duplicate_generation_role_id"
      "duplicate generation role ID selected")
    (validateGenerationRole catalog playerRole) [] roleIds

def validateCharacterThinkRequest (catalog : List RoleCatalogEntry) (playerRole : RoleId)
    (config : PlanConfig) (request : CharacterThinkRequestDto) :
    Except PipelineError CharacterThinkRequest := do
  rejectIf (request.roleId = playerRole) (invalidOutput "plan_player_character_think_forbidden"
    "player role cannot be a character think target")
  rejectIf (!containsRole catalog request.roleId)
    (invalidOutput "plan_unknown_character_think_role_id"
      "selected character think role ID was not offered")
  let thinkingFocus := RustText.trim request.thinkingFocus
  rejectIf (thinkingFocus = "") (invalidOutput "plan_thinking_focus_empty"
    "thinking focus must not be empty")
  rejectIf (RustText.len thinkingFocus > config.maxThinkingFocusBytes)
    (invalidOutput "plan_thinking_focus_too_long"
      "thinking focus exceeds the configured byte limit")
  match BoundedText.tryNew thinkingFocus "thinking_focus" config.maxThinkingFocusBytes with
  | .ok thinkingFocus => return { roleId := request.roleId, thinkingFocus }
  | .error error => .error (invalidOutput "plan_thinking_focus_too_long" error.display)

def validateCharacterThinkRequests (requests : List CharacterThinkRequestDto)
    (catalog : List RoleCatalogEntry) (playerRole : RoleId) (config : PlanConfig) :
    Except PipelineError (List CharacterThinkRequest) := do
  rejectIf (requests.length > config.maxCharacterThinkRequests)
    (invalidOutput "plan_too_many_character_think_requests"
      "character think requests exceed the configured limit")
  Distinct.each CharacterThinkRequestDto.roleId (fun _ => .ok ())
    (fun _ => invalidOutput "plan_duplicate_character_think_role_id"
      "duplicate character think role ID selected")
    (validateCharacterThinkRequest catalog playerRole config) [] requests

def parsePlanOutput (fromStr : String → Except JsonError PlanLlmOutputDto) (raw : String)
    (candidates : PlanCandidates) (catalog : List RoleCatalogEntry) (playerRole : RoleId)
    (config : PlanConfig) : Except PipelineError PlanOutput :=
  match fromStr raw with
  | .error error => .error (invalidOutput "plan_output_invalid_json"
      s!"invalid plan JSON at line {error.line} column {error.column}")
  | .ok output => do
    rejectIf (RustText.isBlank output.storyGoal)
      (invalidOutput "plan_story_goal_empty" "story goal must not be empty")
    rejectIf (RustText.len output.storyGoal > config.maxStoryGoalBytes)
      (invalidOutput "plan_story_goal_too_long"
        s!"story goal size {RustText.len output.storyGoal} exceeds maximum {config.maxStoryGoalBytes}")
    let _ ← validateFactIds output.factsToRetrieve candidates
    let _ ← validateRumorIds output.rumorsToRetrieve candidates
    let _ ← validateGenerationRoles output.rolesForGeneration catalog playerRole config
    let characterThinkRequests ←
      validateCharacterThinkRequests output.characterThinkRequests catalog playerRole config
    match BoundedText.tryNew output.storyGoal "story_goal" config.maxStoryGoalBytes with
    | .error error => .error (invalidOutput "plan_story_goal_too_long" error.display)
    | .ok storyGoal =>
      return {
        storyGoal
        factsToRetrieve := output.factsToRetrieve
        rumorsToRetrieve := output.rumorsToRetrieve
        rolesForGeneration := output.rolesForGeneration
        characterThinkRequests }

end PlanLlm

section Offers
variable {context : StoryContext}

theorem mem_candidatesOf {entries : BTreeMap kind V} {chosen : Ident kind}
    (offered : ((candidatesOf hint activated limit entries).any (·.id = chosen)) = true) :
    chosen ∈ entries := by
  simp only [candidatesOf, List.any_map, List.any_eq_true] at offered
  obtain ⟨entry, member, same⟩ := offered
  have inside := List.mem_of_mem_filter (List.mem_of_mem_take member)
  rw [Std.ExtTreeMap.mem_toList_iff_getElem?_eq_some] at inside
  have same : entry.1 = chosen := by simpa using same
  exact OrdMap.mem_iff_exists.mpr ⟨entry.2, same ▸ inside⟩

theorem containsFact_mem {factId : FactId}
    (offered : (collectCandidates context activated limit).containsFact factId = true) :
    factId ∈ context.facts := by
  simp only [PlanCandidates.containsFact, collectCandidates] at offered
  exact mem_candidatesOf offered

theorem containsRumor_mem {rumorId : RumorId}
    (offered : (collectCandidates context activated limit).containsRumor rumorId = true) :
    rumorId ∈ context.rumors := by
  simp only [PlanCandidates.containsRumor, collectCandidates] at offered
  exact mem_candidatesOf offered

theorem containsRole_iff (context : StoryContext) (playerRole roleId : RoleId) :
    containsRole (collectRoleCatalog context playerRole) roleId = true ↔
      roleId ∈ context.roles ∧ roleId ≠ playerRole := by
  simp only [containsRole, collectRoleCatalog, List.any_map, List.any_eq_true, List.mem_filter,
    Function.comp_apply, decide_eq_true_eq, Prod.exists, OrdMap.mem_iff_exists,
    Std.ExtTreeMap.mem_toList_iff_getElem?_eq_some]
  constructor
  · rintro ⟨id, role, ⟨found, other⟩, rfl⟩
    exact ⟨⟨role, found⟩, other⟩
  · rintro ⟨⟨role, found⟩, other⟩
    exact ⟨roleId, role, ⟨found, other⟩, rfl⟩

end Offers
end Aise
