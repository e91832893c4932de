import Aise.Domain.Knowledge

/-! The names that prompts are known by, and what can go wrong with them. -/
namespace Aise.Domain.Prompt

abbrev SlotId := String

abbrev AssetRef := String

inductive PromptKind where
  | text | messages | fragment | fewShot
  deriving DecidableEq

/-- The `Debug` name. -/
def PromptKind.debug : PromptKind → String
  | .text => "Text"
  | .messages => "Messages"
  | .fragment => "Fragment"
  | .fewShot => "FewShot"

def PromptKind.display : PromptKind → String
  | .text => "text"
  | .messages => "messages"
  | .fragment => "fragment"
  | .fewShot => "few_shot"

inductive AssetStatus where
  | active | deprecated | archived | candidate
  deriving DecidableEq

def AssetStatus.display : AssetStatus → String
  | .active => "active"
  | .deprecated => "deprecated"
  | .archived => "archived"
  | .candidate => "candidate"

inductive PromptRole where
  | system | user | assistant | tool
  deriving DecidableEq

structure PromptMessage where
  role : PromptRole
  content : String
  deriving DecidableEq

inductive RenderedPrompt where
  | text (text : String)
  | messages (messages : List PromptMessage)
  deriving DecidableEq

/-- The errors that loading, resolving and rendering give. -/
inductive PromptError where
  | catalogLoad (message : String)
  | slotNotFound (message : String)
  | packNotFound (name : String)
  | assetNotFound (message : String)
  | kindMismatch (slot : String) (expected : List PromptKind) (actual : PromptKind)
  | renderError (message : String)
  | schemaValidationFailed (message : String)
  | inheritanceCycleOrDepthExceeded (message : String)
  | outputContractViolation (slot reason : String)
  | duplicateProfileRegistration (profile : String)
  | profileNotRegistered (profile : String)
  | duplicateLayerSlot (profile slot : String)
  | layerMustRenderAsText (profile layer : String)
  deriving DecidableEq

/-- A list as `Debug` shows it. -/
def debugList (shown : List String) : String := "[" ++ ", ".intercalate shown ++ "]"

def PromptError.display : PromptError → String
  | .catalogLoad message => message
  | .slotNotFound message => s!"slot not found: {message}"
  | .packNotFound name => s!"pack not found: {name}"
  | .assetNotFound message => s!"asset not found: {message}"
  | .kindMismatch slot expected actual =>
    s!"kind mismatch on slot `{slot}`: expected {debugList (expected.map PromptKind.debug)}, got {actual.display}"
  | .renderError message => s!"render error: {message}"
  | .schemaValidationFailed message => s!"schema validation failed: {message}"
  | .inheritanceCycleOrDepthExceeded message => s!"inheritance cycle or depth exceeded: {message}"
  | .outputContractViolation slot reason => s!"output contract violated on slot `{slot}`: {reason}"
  | .duplicateProfileRegistration profile => s!"prompt profile already registered: {profile}"
  | .profileNotRegistered profile => s!"prompt profile is not registered: {profile}"
  | .duplicateLayerSlot profile slot => s!"prompt profile `{profile}` reuses slot `{slot}` across CSI/RC/FTI"
  | .layerMustRenderAsText profile layer =>
    s!"prompt layer `{layer}` for profile `{profile}` must render as text"

end Aise.Domain.Prompt
