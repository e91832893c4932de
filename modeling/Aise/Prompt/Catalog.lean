import Aise.Lib.Lines
import Aise.Prompt.Pack
import Aise.Prompt.Slot

/-! A catalog renders a slot: a pack says which asset fills it, and the asset's template is rendered with
the variables that the slot asks for. In a catalog whose parts fit together, rendering a slot that is
bound can only fail over the variables, the template itself, or what comes out of it. -/
namespace Aise.Domain.Prompt
open RustText

structure PromptAssetManifest where
  assetId : AssetRef
  kind : PromptKind
  sourcePath : String
  inputSchemaRef : Option String
  outputContractRef : Option String
  hash : Option String
  status : AssetStatus
  deriving DecidableEq

structure CompiledPromptAsset where
  manifest : PromptAssetManifest
  sourceAnchor : String
  resolvedHash : String
  templateName : String
  deriving DecidableEq

inductive PreamblePosition where
  | prepend | append
  deriving DecidableEq

inductive PromptPolicy where
  | preamble (name content : String) (position : PreamblePosition)
  | runtimeGuard (name description : String)
  | postValidator (name : String)
  deriving DecidableEq

def PromptPolicy.name : PromptPolicy → String
  | .preamble name _ _ => name
  | .runtimeGuard name _ => name
  | .postValidator name => name

def PromptPolicy.applyToText (policy : PromptPolicy) (text : String) : Option String :=
  match policy with
  | .preamble _ content .prepend => some s!"{content}\n{text}"
  | .preamble _ content .append => some s!"{text}\n{content}"
  | .runtimeGuard _ _ => none
  | .postValidator _ => none

/-! ### Templates -/

/-- What the template engine does. The templates are there under their names, with their sources. -/
structure TemplateEngine (Value : Type) where
  compile : (name source : String) → Except String Unit
  render : (templates : BTreeMap String String) → (name : String) → BTreeMap String Value →
    Except String String
  notFound : (name : String) → String
  readMessages : String → Except String (List PromptMessage)
  typeOf : Value → JsonType

abbrev PromptRenderer := BTreeMap String String

section
variable {Value : Type} (engine : TemplateEngine Value)

def PromptRenderer.addTemplate (renderer : PromptRenderer) (name source : String) :
    Except PromptError PromptRenderer :=
  match engine.compile name source with
  | .error error => .error (.renderError s!"failed to compile template `{name}`: {error}")
  | .ok _ => .ok (renderer.insert name source)

def normalizeLineEndings (text : String) : String :=
  String.ofList (replace "\r".toList "\n".toList (replace "\r\n".toList "\n".toList text.toList))

def PromptRenderer.render (renderer : PromptRenderer) (templateName : String) (vars : BTreeMap String Value) :
    Except PromptError String :=
  if templateName ∈ renderer then
    match engine.render renderer templateName vars with
    | .error error => .error (.renderError s!"render `{templateName}` failed: {error}")
    | .ok text => .ok (normalizeLineEndings text)
  else .error (.renderError s!"template `{templateName}` not found: {engine.notFound templateName}")

/-- `serde_json::from_str` of the messages. -/
def parseMessages (templateName rendered : String) : Except PromptError RenderedPrompt :=
  match engine.readMessages rendered with
  | .error error => .error (.renderError
      s!"failed to parse rendered messages from `{templateName}`: {error}")
  | .ok messages => .ok (.messages messages)

def PromptRenderer.renderPrompt (renderer : PromptRenderer) (templateName : String) (kind : PromptKind)
    (vars : BTreeMap String Value) : Except PromptError RenderedPrompt := do
  let rendered ← PromptRenderer.render engine renderer templateName vars
  match kind with
  | .text => return .text rendered
  | .fragment => return .text rendered
  | .messages => parseMessages engine templateName rendered
  | .fewShot => parseMessages engine templateName rendered

end

/-! ### Which asset fills a slot -/

structure PromptRenderOptions where
  packOverride : Option String

structure PromptLineageNode where
  slot : SlotId
  assetId : AssetRef
  hash : Option String
  deriving DecidableEq

structure ResolvedSelection where
  slot : SlotId
  pack : String
  assetId : AssetRef
  selectionReason : String

structure ResolvedSlot where
  slot : SlotId
  pack : String
  root : PromptLineageNode
  selectionReason : String
  deriving DecidableEq

def selectPack (defaultPack : String) (options : PromptRenderOptions) : String × String :=
  match options.packOverride with
  | some packOverride => (packOverride, "explicit_override")
  | none => (defaultPack, "default")

def parseAssetRef (assetRef : String) : Except PromptError AssetRef :=
  if isBlank assetRef then .error (.assetNotFound "asset ref cannot be empty")
  else if '@' ∈ assetRef.toList then .error (.assetNotFound
    s!"asset ref `{assetRef}` must be a bare `asset_id` without a revision suffix")
  else .ok assetRef

def resolveSelection (defaultPack : String) (slotId : SlotId) (options : PromptRenderOptions)
    (compiledPacks : BTreeMap String ResolvedPack) : Except PromptError ResolvedSelection := do
  let (packName, reason) := selectPack defaultPack options
  let resolved ← Result.okOr compiledPacks[packName]? (.packNotFound packName)
  let assetRef ← Result.okOr resolved.resolvedSlots[slotId]? (.slotNotFound
    s!"slot `{slotId}` not found in pack `{packName}`")
  let assetId ← parseAssetRef assetRef
  return { slot := slotId, pack := packName, assetId, selectionReason := reason }

structure PromptCatalog where
  assets : BTreeMap AssetRef CompiledPromptAsset
  slots : SlotRegistry
  packs : BTreeMap String ResolvedPack
  rawPacks : BTreeMap String PromptPack
  defaultPack : String
  policies : List PromptPolicy
  renderer : PromptRenderer

/-- All of the metadata but the time that rendering took. -/
structure PromptMetadata where
  slot : SlotId
  pack : String
  root : PromptLineageNode
  renderedAssets : List AssetRef
  appliedPolicies : List String
  selectionReason : String
  inputValidated : Bool
  outputContractValidated : Bool
  deriving DecidableEq

namespace PromptCatalog

def resolve (catalog : PromptCatalog) (slotId : SlotId) (options : PromptRenderOptions) :
    Except PromptError ResolvedSlot := do
  let selection ← resolveSelection catalog.defaultPack slotId options catalog.packs
  let hash := catalog.assets[selection.assetId]?.map (·.resolvedHash)
  return {
    slot := selection.slot
    pack := selection.pack
    root := { slot := selection.slot, assetId := selection.assetId, hash }
    selectionReason := selection.selectionReason }

/-- The text after the policies, and the names of those that changed it. -/
def applyPolicies (policies : List PromptPolicy) (rendered : RenderedPrompt) : RenderedPrompt × List String :=
  match rendered with
  | .text text =>
    let (text, applied) := policies.foldl (fun (text, applied) policy =>
      match policy.applyToText text with
      | some modified => (modified, applied ++ [policy.name])
      | none => (text, applied)) (text, [])
    (.text text, applied)
  | .messages messages => (.messages messages, [])

/-- Whether a slot has a contract that was checked. -/
def checkContract (slotId : SlotId) (slotSpec : Option SlotSpec) (rendered : RenderedPrompt) :
    Except PromptError Bool :=
  match slotSpec.bind (·.outputContract) with
  | none => .ok false
  | some contract =>
    match rendered with
    | .text text => (validateOutputContract slotId contract text).map fun _ => true
    | .messages _ => .ok true

variable {Value : Type} (engine : TemplateEngine Value)

def checkInput (slotSpec : Option SlotSpec) (vars : BTreeMap String Value) : Except PromptError Bool :=
  match slotSpec with
  | some spec => (validateInputVars engine.typeOf spec vars).map fun _ => true
  | none => .ok false

def checkKind (slotId : SlotId) (slotSpec : Option SlotSpec) (kind : PromptKind) : Except PromptError Unit :=
  match slotSpec with
  | some spec => Result.failIf (spec.acceptsKind kind = false) (.kindMismatch slotId spec.allowedKinds kind)
  | none => .ok ⟨⟩

def renderSlot (catalog : PromptCatalog) (slotId : SlotId) (vars : BTreeMap String Value)
    (options : PromptRenderOptions) : Except PromptError (RenderedPrompt × PromptMetadata) := do
  let slotSpec := catalog.slots[slotId]?
  let inputValidated ← checkInput engine slotSpec vars
  let resolved ← catalog.resolve slotId options
  let assetRef := resolved.root.assetId
  let compiled ← Result.okOr catalog.assets[assetRef]? (.assetNotFound assetRef)
  checkKind slotId slotSpec compiled.manifest.kind
  let rendered ← PromptRenderer.renderPrompt engine catalog.renderer compiled.templateName
    compiled.manifest.kind vars
  let (rendered, appliedPolicies) := applyPolicies catalog.policies rendered
  let outputContractValidated ← checkContract slotId slotSpec rendered
  return (rendered, {
    slot := resolved.slot
    pack := resolved.pack
    root := resolved.root
    renderedAssets := [assetRef]
    appliedPolicies
    selectionReason := resolved.selectionReason
    inputValidated
    outputContractValidated })

end PromptCatalog

/-- The state of `normalize_rendered_text` after a line. -/
def normalizeLine : List Char × Nat → List Char → List Char × Nat
  | (out, blankRun), line =>
    if isBlank (String.ofList line) then (if blankRun + 1 ≤ 1 then out ++ ['\n'] else out, blankRun + 1)
    else (out ++ line, 0)

def normalizeRenderedText (text : String) : String :=
  trim (String.ofList ((Lines.splitInclusive '\n' text.toList).foldl normalizeLine ([], 0)).1)

namespace PromptCatalog
variable {Value : Type} (engine : TemplateEngine Value)

/-- The text of a prompt, which messages do not have. -/
def textOf (name : String) : RenderedPrompt → Except PromptError String
  | .text text => .ok (normalizeRenderedText text)
  | .messages _ => .error (.kindMismatch name [.text, .fragment] .messages)

def renderTextWithMetadata (catalog : PromptCatalog) (slotId : SlotId) (vars : BTreeMap String Value)
    (options : PromptRenderOptions) : Except PromptError (String × PromptMetadata) := do
  let (rendered, metadata) ← catalog.renderSlot engine slotId vars options
  let text ← textOf slotId rendered
  return (text, metadata)

end PromptCatalog

/-! ### Catalogs whose parts fit together -/

/-- What a pack binds is there: the slot is known, and the asset is one that it accepts. -/
structure PromptCatalog.Linked (catalog : PromptCatalog) : Prop where
  default : ∃ resolved, catalog.packs[catalog.defaultPack]? = some resolved
  bound : ∀ {packName : String} {resolved : ResolvedPack} {slotId : SlotId} {assetRef : AssetRef},
    catalog.packs[packName]? = some resolved → resolved.resolvedSlots[slotId]? = some assetRef →
    parseAssetRef assetRef = .ok assetRef ∧
      ∃ (spec : SlotSpec) (compiled : CompiledPromptAsset),
        catalog.slots[slotId]? = some spec ∧ catalog.assets[assetRef]? = some compiled ∧
        spec.acceptsKind compiled.manifest.kind = true ∧ compiled.templateName ∈ catalog.renderer
  covered : ∀ {packName : String} {resolved : ResolvedPack} {slotId : SlotId} {spec : SlotSpec},
    catalog.packs[packName]? = some resolved → catalog.slots[slotId]? = some spec →
    spec.required = true → ∃ assetRef, resolved.resolvedSlots[slotId]? = some assetRef

/-- The ways in which rendering a slot that is bound may fail. -/
inductive RenderFailure (slotId : SlotId) (templateName : String) : PromptError → Prop
  | input (message : String) : RenderFailure slotId templateName (.schemaValidationFailed message)
  | template (error : String) :
      RenderFailure slotId templateName (.renderError s!"render `{templateName}` failed: {error}")
  | messages (error : String) : RenderFailure slotId templateName
      (.renderError s!"failed to parse rendered messages from `{templateName}`: {error}")
  | contract (reason : String) : RenderFailure slotId templateName (.outputContractViolation slotId reason)

/-- What is known of a prompt that a slot gave. -/
structure RenderedWell {Value : Type} (engine : TemplateEngine Value) (spec : SlotSpec)
    (compiled : CompiledPromptAsset) (vars : BTreeMap String Value) (rendered : RenderedPrompt)
    (metadata : PromptMetadata) : Prop where
  provided : ∀ var ∈ spec.vars, var.Provided engine.typeOf vars
  validated : metadata.inputValidated = true
  root : metadata.root.hash = some compiled.resolvedHash
  kind : (∃ text, rendered = .text text) ↔
    compiled.manifest.kind = .text ∨ compiled.manifest.kind = .fragment
  met : ∀ contract text, spec.outputContract = some contract → rendered = .text text → contract.Met text

section
variable {Value : Type} {engine : TemplateEngine Value} {catalog : PromptCatalog} {slotId : SlotId}
  {vars : BTreeMap String Value} {options : PromptRenderOptions}

theorem renderPrompt_fails {templateName : String} {kind : PromptKind}
    (known : templateName ∈ catalog.renderer) :
    Result.OnlyFails (RenderFailure slotId templateName)
      (PromptRenderer.renderPrompt engine catalog.renderer templateName kind vars) := by
  have parsed (rendered : String) :
      Result.OnlyFails (RenderFailure slotId templateName) (parseMessages engine templateName rendered) := by
    unfold parseMessages
    split
    · exact .error (.messages _)
    · exact .ok _
  refine .bind ?_ fun rendered _ => ?_
  · unfold PromptRenderer.render
    rw [if_pos known]
    split
    · exact .error (.template _)
    · exact .ok _
  · cases kind with
    | text => exact .ok _
    | fragment => exact .ok _
    | messages => exact parsed rendered
    | fewShot => exact parsed rendered

/-- A prompt is text exactly if its asset is text or a fragment. -/
theorem renderPrompt_kind {renderer : PromptRenderer} {templateName : String} {kind : PromptKind}
    {rendered : RenderedPrompt}
    (ok : PromptRenderer.renderPrompt engine renderer templateName kind vars = .ok rendered) :
    (∃ text, rendered = .text text) ↔ kind = .text ∨ kind = .fragment := by
  obtain ⟨raw, _, ok⟩ := Result.bind_eq_ok ok
  have parsed (ok : parseMessages engine templateName raw = .ok rendered) :
      ¬∃ text, rendered = .text text := by
    unfold parseMessages at ok
    split at ok
    · cases ok
    · cases ok
      simp
  cases kind with
  | text =>
    cases ok
    simp
  | fragment =>
    cases ok
    simp
  | messages => simpa using parsed ok
  | fewShot => simpa using parsed ok

/-- Policies change the text only. -/
theorem applyPolicies_text (policies : List PromptPolicy) (rendered : RenderedPrompt) :
    (∃ text, (PromptCatalog.applyPolicies policies rendered).1 = .text text) ↔
      ∃ text, rendered = .text text := by
  cases rendered with
  | text text => simp [PromptCatalog.applyPolicies]
  | messages messages => simp [PromptCatalog.applyPolicies]

theorem checkContract_fails {spec : Option SlotSpec} {rendered : RenderedPrompt} {templateName : String} :
    Result.OnlyFails (RenderFailure slotId templateName)
      (PromptCatalog.checkContract slotId spec rendered) := by
  unfold PromptCatalog.checkContract
  split
  · exact .ok _
  · split
    · intro failure failed
      obtain ⟨reason, rfl⟩ := validateOutputContract_fails failure (Result.map_eq_error failed)
      exact .contract reason
    · exact .ok _

theorem checkContract_met {spec : SlotSpec} {rendered : RenderedPrompt} {checked : Bool}
    (ok : PromptCatalog.checkContract slotId (some spec) rendered = .ok checked) {contract : OutputContract}
    {text : String} (declared : spec.outputContract = some contract) (same : rendered = .text text) :
    contract.Met text := by
  unfold PromptCatalog.checkContract at ok
  rw [Option.bind_some, declared, same] at ok
  obtain ⟨_, valid, _⟩ := Result.map_eq_ok ok
  exact validateOutputContract_eq_ok.mp valid

/-- The slot that a pack binds resolves to its asset. -/
theorem resolve_bound (linked : catalog.Linked) {resolved : ResolvedPack} {assetRef : AssetRef}
    {compiled : CompiledPromptAsset}
    (selected : catalog.packs[(selectPack catalog.defaultPack options).1]? = some resolved)
    (bound : resolved.resolvedSlots[slotId]? = some assetRef)
    (stored : catalog.assets[assetRef]? = some compiled) :
    catalog.resolve slotId options = .ok {
      slot := slotId
      pack := (selectPack catalog.defaultPack options).1
      root := { slot := slotId, assetId := assetRef, hash := some compiled.resolvedHash }
      selectionReason := (selectPack catalog.defaultPack options).2 } := by
  have parsed := (linked.bound selected bound).1
  unfold PromptCatalog.resolve resolveSelection
  simp only [selected, Result.okOr, bound, parsed, stored, bind, Except.bind, pure, Except.pure,
    Option.map_some]

/-- In a catalog whose parts fit together, rendering a bound slot fails only over the variables, the
template or the contract, and a prompt that it gives is what slot and asset promise. -/
theorem renderSlot_linked (engine : TemplateEngine Value) (vars : BTreeMap String Value)
    (linked : catalog.Linked) {resolved : ResolvedPack} {assetRef : AssetRef}
    (selected : catalog.packs[(selectPack catalog.defaultPack options).1]? = some resolved)
    (bound : resolved.resolvedSlots[slotId]? = some assetRef) :
    ∃ spec compiled, catalog.slots[slotId]? = some spec ∧ catalog.assets[assetRef]? = some compiled ∧
      spec.acceptsKind compiled.manifest.kind = true ∧
      Result.OnlyFails (RenderFailure slotId compiled.templateName)
        (catalog.renderSlot engine slotId vars options) ∧
      ∀ rendered metadata, catalog.renderSlot engine slotId vars options = .ok (rendered, metadata) →
        RenderedWell engine spec compiled vars rendered metadata := by
  obtain ⟨_, spec, compiled, declared, stored, accepted, template⟩ := linked.bound selected bound
  have chosen := resolve_bound linked selected bound stored
  have input : PromptCatalog.checkInput engine (catalog.slots[slotId]?) vars =
      (validateInputVars engine.typeOf spec vars).map fun _ => true := by
    rw [declared]
    rfl
  have kind : PromptCatalog.checkKind slotId (catalog.slots[slotId]?) compiled.manifest.kind = .ok ⟨⟩ := by
    rw [declared]
    exact Result.failIf_eq_ok.mpr (by simp [accepted])
  refine ⟨spec, compiled, declared, stored, accepted, ?_, ?_⟩
  · refine .bind ?_ fun _ _ => .bind ?_ fun _ picked => ?_
    · rw [input]
      intro failure failed
      obtain ⟨message, rfl⟩ := validateInputVars_fails failure (Result.map_eq_error failed)
      exact .input message
    · rw [chosen]
      exact .ok _
    · rw [chosen] at picked
      cases picked
      refine .bind ?_ fun _ found => ?_
      · rw [stored]
        exact .ok _
      · rw [stored] at found
        cases found
        refine .bind ?_ fun _ _ => .bind ?_ fun _ _ => .bind ?_ fun _ _ => .ok _
        · rw [kind]
          exact .ok _
        · exact renderPrompt_fails template
        · exact checkContract_fails
  · intro rendered metadata ok
    obtain ⟨_, valid, ok⟩ := Result.bind_eq_ok ok
    obtain ⟨_, picked, ok⟩ := Result.bind_eq_ok ok
    rw [chosen] at picked
    cases picked
    obtain ⟨_, found, ok⟩ := Result.bind_eq_ok ok
    rw [stored] at found
    cases found
    obtain ⟨_, _, ok⟩ := Result.bind_eq_ok ok
    obtain ⟨raw, rendered, ok⟩ := Result.bind_eq_ok ok
    obtain ⟨checked, met, ok⟩ := Result.bind_eq_ok ok
    cases ok
    rw [input] at valid
    obtain ⟨_, given, rfl⟩ := Result.map_eq_ok valid
    rw [declared] at met
    exact {
      provided := validateInputVars_eq_ok.mp given
      validated := rfl
      root := rfl
      kind := (applyPolicies_text _ _).trans (renderPrompt_kind rendered)
      met := fun contract text => checkContract_met met }

end

end Aise.Domain.Prompt
