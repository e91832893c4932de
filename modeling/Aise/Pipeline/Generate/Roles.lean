import Aise.Lib.Json
import Aise.Pipeline.Think

/-! The roles and decisions a generation is given. The identifiers are checked first;
after that only sizes can be refused. -/
namespace Aise
open SerdeJson

structure GenerateConfig where
  maxRoleBytesPerRole : Nat := 16 * 1024
  maxRoleContextBytes : Nat := 384 * 1024
  maxDecisionContextBytes : Nat := 16 * 1024

structure GenerateRoleContext where
  playerRole : String
  roles : String
  decisions : String

namespace GenerateRoles

def inconsistent (code message : String) : PipelineError := .inconsistentData .generate code message

def truncationMarker : String := "[truncated]"

/-- `Value::to_string`. -/
def jsonText (value : Json) : String := String.join value.pieces

def jsonString (value : String) : String := jsonText (.str value)

def aliasesJson (aliases : List BoundedText) : Json := .arr (aliases.map BoundedText.toJson)

def optionalTextJson (value : Option BoundedText) : Json := optionJson BoundedText.toJson value

/-- A `serde_json` map keeps its keys in order, whatever order they were put in. -/
def dialogueExamplesJson (profile : CharacterProfile) : Json :=
  .arr (profile.dialogueExamples.map fun example_ =>
    .obj [("response", example_.response.toJson), ("situation", example_.situation.toJson)])

/-- The binary search of `truncated_json_string`, over character counts. -/
def truncateSearch (fits : Nat → Bool) (low high : Nat) : Nat :=
  if low < high then
    let middle := low + (high - low) / 2
    if fits middle then truncateSearch fits (middle + 1) high else truncateSearch fits low middle
  else low
  termination_by high - low
  decreasing_by
    · omega
    · omega

/-- The first characters of a text with the marker behind them. -/
def truncatedAt (value : String) (count : Nat) : String :=
  jsonString (String.ofList (value.toList.take count) ++ truncationMarker)

def truncatedJsonString (value : String) (maximumBytes : Nat) : Option String :=
  if RustText.len (jsonString truncationMarker) > maximumBytes then none
  else
    let low := truncateSearch (fun count => RustText.len (truncatedAt value count) ≤ maximumBytes)
      0 (value.toList.length + 1)
    some (truncatedAt value (low - 1))

def roleIdentity (role : RoleEntry) : String :=
  "\n".intercalate [
    s!"role_id: {jsonString role.id.value}",
    s!"name: {jsonString role.spec.name.value}",
    s!"aliases: {jsonText (aliasesJson role.spec.aliases)}",
    s!"profile.appearance: {jsonText (optionalTextJson role.profile.appearance)}",
    s!"profile.personality: {jsonText (optionalTextJson role.profile.personality)}",
    s!"profile.speaking_style: {jsonText (optionalTextJson role.profile.speakingStyle)}",
    s!"profile.dialogue_examples: {jsonText (dialogueExamplesJson role.profile)}"]

def backstoryPrefix : String := "\nbackstory: "

def projectionTooLarge (message : String) : PipelineError :=
  inconsistent "generate_role_projection_too_large" message

def renderBackstory (rendered : String) (backstory : String) (config : GenerateConfig) :
    Except PipelineError String :=
  let total (text : String) : Nat :=
    saturatingAdd (saturatingAdd (RustText.len rendered) (RustText.len backstoryPrefix))
      (RustText.len text)
  let cannotFit := projectionTooLarge "truncated role backstory cannot fit the per-role byte budget"
  if total (jsonString backstory) ≤ config.maxRoleBytesPerRole then .ok (jsonString backstory)
  else if total (jsonString truncationMarker) > config.maxRoleBytesPerRole then .error cannotFit
  else
    let available := config.maxRoleBytesPerRole - RustText.len rendered -
      RustText.len backstoryPrefix
    match truncatedJsonString backstory available with
    | some text => .ok text
    | none => .error cannotFit

def renderRole (role : RoleEntry) (config : GenerateConfig) : Except PipelineError String := do
  let rendered := roleIdentity role
  rejectIf (RustText.len rendered > config.maxRoleBytesPerRole)
    (projectionTooLarge "mandatory role identity and profile exceed the per-role byte budget")
  let backstory ← renderBackstory rendered role.spec.backstory.value config
  return rendered ++ backstoryPrefix ++ backstory

def renderRolesFrom (config : GenerateConfig) (rendered : String) :
    List RoleEntry → Except PipelineError String
  | [] => .ok rendered
  | role :: rest => do
    let text ← renderRole role config
    renderRolesFrom config (if rendered = "" then text else rendered ++ "\n\n" ++ text) rest

def renderRoles (roles : List RoleEntry) (config : GenerateConfig) : Except PipelineError String :=
  renderRolesFrom config "" roles

def validateAggregateRoleContext (playerRole roles : String) (config : GenerateConfig) :
    Except PipelineError Unit :=
  let separatorBytes := if roles = "" then 0 else 2
  rejectIf (saturatingAdd (saturatingAdd (RustText.len playerRole) separatorBytes)
      (RustText.len roles) > config.maxRoleContextBytes)
    (inconsistent "generate_role_context_too_large"
      "resolved role context exceeds the aggregate byte budget")

def renderDecision (decision : CharacterDecision) : String :=
  s!"- role_id: {jsonString decision.roleId.value}\n  decision: {jsonString decision.decision.value}\n  suggested_utterance: {jsonText (optionalTextJson decision.suggestedUtterance)}"

def renderDecisionsFrom (config : GenerateConfig) (rendered : String) :
    List CharacterDecision → Except PipelineError String
  | [] => .ok rendered
  | decision :: rest => do
    let item := renderDecision decision
    let separatorBytes := if rendered = "" then 0 else 1
    rejectIf (saturatingAdd (saturatingAdd (RustText.len rendered) separatorBytes)
        (RustText.len item) > config.maxDecisionContextBytes)
      (inconsistent "generate_decision_context_too_large"
        "Character Decision context exceeds the byte budget")
    renderDecisionsFrom config (if rendered = "" then item else rendered ++ "\n" ++ item) rest

def renderDecisions (decisions : List CharacterDecision) (config : GenerateConfig) :
    Except PipelineError String :=
  renderDecisionsFrom config "" decisions

def resolveRole (context : StoryContext) (roleId : RoleId) : Except PipelineError RoleEntry :=
  match context.roles[roleId]? with
  | some role => .ok role
  | none => .error (inconsistent "generate_role_missing"
      s!"role ID {roleId} is missing from the story context")

def resolveRoles (context : StoryContext) (roleIds : List RoleId) :
    Except PipelineError (List RoleEntry) :=
  Distinct.each id (fun _ => .ok ())
    (fun roleId => inconsistent "generate_duplicate_role_id"
      s!"role ID {roleId} appears more than once")
    (resolveRole context) [] roleIds

def validateAiRoles (playerRole : RoleEntry) (roles : List RoleEntry) : Except PipelineError Unit :=
  rejectIf (roles.any (·.id = playerRole.id)) (inconsistent "generate_player_role_in_ai_roles"
    "player role appears in the AI role collection")

def validateDecisions (playerRole : RoleEntry) (roles : List RoleEntry)
    (decisions : List CharacterDecision) : Except PipelineError (List Unit) :=
  Distinct.each CharacterDecision.roleId
    (fun decision => rejectIf (decision.roleId = playerRole.id)
      (inconsistent "generate_player_character_decision_forbidden"
        "Character Decision targets the player role"))
    (fun _ => inconsistent "generate_duplicate_character_decision"
      "Character Decision role appears more than once")
    (fun decision => rejectIf (!roles.any (·.id = decision.roleId))
      (inconsistent "generate_character_decision_role_missing"
        "Character Decision role is missing from resolved roles"))
    [] decisions

/-- The checks on identifiers, which come before any text is rendered. -/
def checkRoles (context : StoryContext) (roleIds : List RoleId)
    (decisions : List CharacterDecision) : Except PipelineError (RoleEntry × List RoleEntry) := do
  let playerRole ← resolveRole context context.player
  let roles ← resolveRoles context roleIds
  validateAiRoles playerRole roles
  let _ ← validateDecisions playerRole roles decisions
  return (playerRole, roles)

def renderContext (playerRole : RoleEntry) (roles : List RoleEntry)
    (decisions : List CharacterDecision) (config : GenerateConfig) :
    Except PipelineError GenerateRoleContext := do
  let playerText ← renderRole playerRole config
  let rolesText ← renderRoles roles config
  validateAggregateRoleContext playerText rolesText config
  let decisionsText ← renderDecisions decisions config
  return { playerRole := playerText, roles := rolesText, decisions := decisionsText }

def projectRoleContext (context : StoryContext) (roleIds : List RoleId)
    (decisions : List CharacterDecision) (config : GenerateConfig) :
    Except PipelineError GenerateRoleContext := do
  let (playerRole, roles) ← checkRoles context roleIds decisions
  renderContext playerRole roles decisions config

end GenerateRoles
end Aise
