import Aise.Prompt.Loader

/-! A prompt is composed of three layers, each of which is a slot that renders as text. The slots are
fixed for each profile; with a catalog that was loaded and asks for them, composing fails only over the
variables, a template, a contract, or an asset that is made of messages. -/
namespace Aise.Domain.Prompt

inductive PromptProfile where
  | writerPlanner | characterThink | storyGenerator | storyStateExtractor | storyRepairer
  deriving DecidableEq

def PromptProfile.asStr : PromptProfile → String
  | .writerPlanner => "writer_planner"
  | .characterThink => "character_think"
  | .storyGenerator => "story_generator"
  | .storyStateExtractor => "story_state_extractor"
  | .storyRepairer => "story_repairer"

structure PromptProfileAssets where
  csiSlot : SlotId
  rcSlot : SlotId
  ftiSlot : SlotId
  deriving DecidableEq

/-- The entries of the registry. -/
abbrev PromptProfileRegistry := PromptProfile → Option PromptProfileAssets

namespace PromptProfileRegistry

def duplicateSlot (assets : PromptProfileAssets) : Option SlotId :=
  if assets.csiSlot = assets.rcSlot ∨ assets.csiSlot = assets.ftiSlot then some assets.csiSlot
  else if assets.rcSlot = assets.ftiSlot then some assets.rcSlot
  else none

def register (entries : PromptProfileRegistry) (profile : PromptProfile) (assets : PromptProfileAssets) :
    Except PromptError PromptProfileRegistry :=
  if (entries profile).isSome then .error (.duplicateProfileRegistration profile.asStr)
  else
    match duplicateSlot assets with
    | some slot => .error (.duplicateLayerSlot profile.asStr slot)
    | none => .ok (Function.update entries profile (some assets))

def assetsFor (entries : PromptProfileRegistry) (profile : PromptProfile) :
    Except PromptError PromptProfileAssets :=
  Result.okOr (entries profile) (.profileNotRegistered profile.asStr)

end PromptProfileRegistry

inductive PromptLayer where
  | csi | rc | fti
  deriving DecidableEq

def PromptLayer.asStr : PromptLayer → String
  | .csi => "csi"
  | .rc => "rc"
  | .fti => "fti"

structure PromptCompositionInput (Value : Type) where
  profile : PromptProfile
  rcVars : BTreeMap String Value
  ftiVars : BTreeMap String Value

structure PromptCompositionMetadata where
  csi : PromptMetadata
  rc : PromptMetadata
  fti : PromptMetadata

structure PromptComposition where
  profile : PromptProfile
  csi : String
  rc : String
  fti : String
  metadata : PromptCompositionMetadata

structure PromptComposer where
  catalog : PromptCatalog
  profiles : PromptProfileRegistry

namespace PromptComposer
variable {Value : Type} (engine : TemplateEngine Value)

/-- An asset that is no text is an error of the layer. -/
def layerError (profile : PromptProfile) (layer : PromptLayer) : PromptError → PromptError
  | .kindMismatch _ _ _ => .layerMustRenderAsText profile.asStr layer.asStr
  | other => other

def renderLayer (composer : PromptComposer) (profile : PromptProfile) (layer : PromptLayer)
    (slotId : SlotId) (vars : BTreeMap String Value) (options : PromptRenderOptions) :
    Except PromptError (String × PromptMetadata) :=
  (composer.catalog.renderTextWithMetadata engine slotId vars options).mapError (layerError profile layer)

def compose (composer : PromptComposer) (input : PromptCompositionInput Value)
    (options : PromptRenderOptions) : Except PromptError PromptComposition := do
  let assets ← composer.profiles.assetsFor input.profile
  let (csi, csiMetadata) ← composer.renderLayer engine input.profile .csi assets.csiSlot ∅ options
  let (rc, rcMetadata) ← composer.renderLayer engine input.profile .rc assets.rcSlot input.rcVars options
  let (fti, ftiMetadata) ← composer.renderLayer engine input.profile .fti assets.ftiSlot input.ftiVars options
  return {
    profile := input.profile
    csi, rc, fti
    metadata := { csi := csiMetadata, rc := rcMetadata, fti := ftiMetadata } }

end PromptComposer

/-! ### The source of prompts -/

def profileAssets : PromptProfile → PromptProfileAssets
  | .writerPlanner =>
    ⟨"context.writer_planner.csi", "context.writer_planner.rc", "context.writer_planner.fti"⟩
  | .characterThink =>
    ⟨"context.character_think.csi", "context.character_think.rc", "context.character_think.fti"⟩
  | .storyGenerator =>
    ⟨"context.story_generator.csi", "context.story_generator.rc", "context.story_generator.fti"⟩
  | .storyStateExtractor =>
    ⟨"context.story_state_extractor.csi", "context.story_state_extractor.rc",
      "context.story_state_extractor.fti"⟩
  | .storyRepairer =>
    ⟨"context.story_repairer.csi", "context.story_repairer.rc", "context.story_repairer.fti"⟩

/-- The registrations of `CatalogPromptSource::new`, in their order. -/
def registrations : List PromptProfile :=
  [.writerPlanner, .characterThink, .storyGenerator, .storyStateExtractor, .storyRepairer]

def CatalogPromptSource.new (catalog : PromptCatalog) : Except PromptError PromptComposer := do
  let profiles ← registrations.foldlM (fun (entries : PromptProfileRegistry) profile =>
    entries.register profile (profileAssets profile)) fun _ => none
  return { catalog, profiles }

def CatalogPromptSource.compose {Value : Type} (engine : TemplateEngine Value) (source : PromptComposer)
    (input : PromptCompositionInput Value) : Except PromptError PromptComposition :=
  source.compose engine input ⟨none⟩

/-! ### The profiles are all there -/

theorem profileAssets_distinct (profile : PromptProfile) :
    PromptProfileRegistry.duplicateSlot (profileAssets profile) = none := by
  cases profile with
  | writerPlanner => decide
  | characterThink => decide
  | storyGenerator => decide
  | storyStateExtractor => decide
  | storyRepairer => decide

theorem register_each {profiles : List PromptProfile} (distinct : profiles.Nodup)
    {entries : PromptProfileRegistry} (free : ∀ profile ∈ profiles, entries profile = none) :
    profiles.foldlM (fun (entries : PromptProfileRegistry) profile =>
        entries.register profile (profileAssets profile)) entries =
      .ok fun profile => if profile ∈ profiles then some (profileAssets profile) else entries profile := by
  induction profiles generalizing entries with
  | nil => rfl
  | cons first rest ih =>
    obtain ⟨once, distinct⟩ := List.nodup_cons.mp distinct
    have registered : entries.register first (profileAssets first) =
        .ok (Function.update entries first (some (profileAssets first))) := by
      simp [PromptProfileRegistry.register, free first List.mem_cons_self, profileAssets_distinct]
    have still : ∀ profile ∈ rest,
        Function.update entries first (some (profileAssets first)) profile = none := by
      intro profile member
      have other : profile ≠ first := fun same => once (same ▸ member)
      rw [Function.update_of_ne other]
      exact free profile (List.mem_cons_of_mem _ member)
    rw [Result.foldlM_cons_ok registered, ih distinct still]
    congr 1
    funext profile
    by_cases later : profile ∈ rest
    · simp [later]
    · by_cases same : profile = first
      · subst same
        simp [later]
      · simp [later, same]

/-- Every profile is registered, and none of the registrations fails. -/
theorem new_eq (catalog : PromptCatalog) :
    CatalogPromptSource.new catalog = .ok ⟨catalog, fun profile => some (profileAssets profile)⟩ := by
  have all (profile : PromptProfile) : profile ∈ registrations := by
    cases profile with
    | writerPlanner => decide
    | characterThink => decide
    | storyGenerator => decide
    | storyStateExtractor => decide
    | storyRepairer => decide
  have distinct : registrations.Nodup := by decide
  rw [CatalogPromptSource.new, Result.ok_bind (register_each distinct fun _ _ => rfl)]
  simp [all, pure, Except.pure]

/-! ### What composing can come to -/

def PromptProfileAssets.slots (assets : PromptProfileAssets) : List SlotId :=
  [assets.csiSlot, assets.rcSlot, assets.ftiSlot]

/-- The ways in which composing may fail. -/
inductive ComposeFailure (profile : PromptProfile) : PromptError → Prop
  | layer {slotId : SlotId} {templateName : String} {failure : PromptError}
      (own : slotId ∈ (profileAssets profile).slots) (failed : RenderFailure slotId templateName failure) :
      ComposeFailure profile failure
  | notText (layer : PromptLayer) :
      ComposeFailure profile (.layerMustRenderAsText profile.asStr layer.asStr)

section
variable {Value : Type} {engine : TemplateEngine Value} {catalog : PromptCatalog} {source : PromptComposer}

/-- A slot that the catalog asks for. -/
def Required (catalog : PromptCatalog) (slotId : SlotId) : Prop :=
  ∃ spec : SlotSpec, catalog.slots[slotId]? = some spec ∧ spec.required = true

theorem renderLayer_linked (engine : TemplateEngine Value) (linked : catalog.Linked)
    (profiles : PromptProfileRegistry) (profile : PromptProfile) (layer : PromptLayer) {slotId : SlotId} (vars : BTreeMap String Value)
    (own : slotId ∈ (profileAssets profile).slots) (required : Required catalog slotId) :
    Result.OnlyFails (ComposeFailure profile)
        ((PromptComposer.mk catalog profiles).renderLayer engine profile layer slotId vars ⟨none⟩) ∧
      ∀ text metadata,
        (PromptComposer.mk catalog profiles).renderLayer engine profile layer slotId vars ⟨none⟩ =
          .ok (text, metadata) → metadata.inputValidated = true := by
  obtain ⟨resolved, selected⟩ := linked.default
  obtain ⟨spec, declared, needed⟩ := required
  obtain ⟨assetRef, bound⟩ := linked.covered selected declared needed
  have chosen : catalog.packs[(selectPack catalog.defaultPack ⟨none⟩).1]? = some resolved := selected
  obtain ⟨_, compiled, _, _, _, fails, well⟩ := renderSlot_linked engine vars linked chosen bound
  constructor
  · intro failure failed
    obtain ⟨cause, inner, rfl⟩ := Result.mapError_eq_error failed
    rcases Result.bind_eq_error inner with here | ⟨⟨rendered, metadata⟩, _, later⟩
    · have expected := fails cause here
      have kept : PromptComposer.layerError profile layer cause = cause := by
        cases expected with
        | input _ => rfl
        | template _ => rfl
        | messages _ => rfl
        | contract _ => rfl
      rw [kept]
      exact .layer own expected
    · cases rendered with
      | text text => cases later
      | messages messages =>
        cases later
        exact .notText layer
  · intro text metadata ok
    obtain ⟨⟨rendered, whole⟩, shown, ok⟩ := Result.bind_eq_ok (Result.mapError_eq_ok.mp ok)
    obtain ⟨_, _, ok⟩ := Result.bind_eq_ok ok
    cases ok
    exact (well rendered _ shown).validated

/-- Over a catalog that was loaded and asks for the slots of a profile, composing never misses a pack, a
slot or an asset, and each layer of a prompt that it gives had its variables checked. -/
theorem loaded_source_composes {sha256 : String → String}
    {readMetadata : String → Except String SectionMetadata} {loadSource : String → Except PromptError String}
    {orders : HashLoop → HashOrder} {index : IndexFile} {slotSpecs : List SlotSpec}
    (ok : loadCatalogContents orders engine sha256 readMetadata loadSource index slotSpecs = .ok catalog)
    (made : CatalogPromptSource.new catalog = .ok source) (input : PromptCompositionInput Value)
    (required : ∀ slotId ∈ (profileAssets input.profile).slots, Required catalog slotId) :
    Result.OnlyFails (ComposeFailure input.profile) (CatalogPromptSource.compose engine source input) ∧
      ∀ composition, CatalogPromptSource.compose engine source input = .ok composition →
        composition.metadata.csi.inputValidated = true ∧ composition.metadata.rc.inputValidated = true ∧
          composition.metadata.fti.inputValidated = true := by
  cases (new_eq catalog).symm.trans made
  have linked := loaded_catalog_linked ok
  have layer (layer : PromptLayer) (slotId : SlotId) (vars : BTreeMap String Value)
      (own : slotId ∈ (profileAssets input.profile).slots) :=
    renderLayer_linked engine linked (fun profile => some (profileAssets profile)) input.profile layer vars own
      (required slotId own)
  obtain ⟨csiFails, csiChecked⟩ := layer .csi (profileAssets input.profile).csiSlot ∅
    (by simp [PromptProfileAssets.slots])
  obtain ⟨rcFails, rcChecked⟩ := layer .rc (profileAssets input.profile).rcSlot input.rcVars
    (by simp [PromptProfileAssets.slots])
  obtain ⟨ftiFails, ftiChecked⟩ := layer .fti (profileAssets input.profile).ftiSlot input.ftiVars
    (by simp [PromptProfileAssets.slots])
  constructor
  · refine .bind (.ok _) fun assets found => ?_
    cases found
    exact .bind csiFails fun _ _ => .bind rcFails fun _ _ => .bind ftiFails fun _ _ => .ok _
  · intro composition composed
    obtain ⟨assets, found, composed⟩ := Result.bind_eq_ok composed
    cases found
    obtain ⟨⟨csi, csiMetadata⟩, csiShown, composed⟩ := Result.bind_eq_ok composed
    obtain ⟨⟨rc, rcMetadata⟩, rcShown, composed⟩ := Result.bind_eq_ok composed
    obtain ⟨⟨fti, ftiMetadata⟩, ftiShown, composed⟩ := Result.bind_eq_ok composed
    cases composed
    exact ⟨csiChecked csi csiMetadata csiShown, rcChecked rc rcMetadata rcShown,
      ftiChecked fti ftiMetadata ftiShown⟩

end

namespace Composition.Sample

def plannerSlots : List SlotId := (profileAssets .writerPlanner).slots

/-- One asset for all the slots of the planner. -/
def index : IndexFile where
  assets := [⟨"plan/system", .text, "plan.md.j2", none, none, none, .active⟩]
  packs := [⟨"base", none, plannerSlots.foldl (fun slots slotId => slots.insert slotId "plan/system") ∅⟩]
  defaultPack := "base"
  policies := []

def slotSpecs : List SlotSpec :=
  plannerSlots.map fun slotId => { Loader.Sample.planSlot with slotId := slotId }

def loading : Except PromptError PromptCatalog :=
  loadCatalogContents Loader.Sample.inOrder Loader.Sample.engine id (fun text => .ok ⟨text, plannerSlots⟩)
    (fun _ => .ok Loader.Sample.planTemplate) index slotSpecs

def catalog : PromptCatalog := loading.toOption.getD ⟨∅, ∅, ∅, ∅, "", [], ∅⟩

def input : PromptCompositionInput Unit := ⟨.writerPlanner, ∅, ∅⟩

theorem planner_loaded : loading = .ok catalog := Result.eq_ok_of_isSome (by decide +kernel) _

theorem planner_required : ∀ slotId ∈ plannerSlots, Required catalog slotId := by
  have registered : registerSlots slotSpecs = .ok catalog.slots := (load_iff.mp planner_loaded).slots
  have declared : ∀ slotId ∈ plannerSlots,
      ((registerSlots slotSpecs).toOption.bind fun slots => (slots[slotId]?).map (·.required)) =
        some true := by
    decide +kernel
  intro slotId member
  have known := declared slotId member
  rw [registered] at known
  obtain ⟨spec, stored, required⟩ := Option.map_eq_some_iff.mp known
  exact ⟨spec, stored, required⟩

theorem planner_composes :
    Result.OnlyFails (ComposeFailure .writerPlanner) (CatalogPromptSource.compose Loader.Sample.engine
        ⟨catalog, fun profile => some (profileAssets profile)⟩ input) ∧
      ∀ composition, CatalogPromptSource.compose Loader.Sample.engine
          ⟨catalog, fun profile => some (profileAssets profile)⟩ input = .ok composition →
        composition.metadata.csi.inputValidated = true ∧ composition.metadata.rc.inputValidated = true ∧
          composition.metadata.fti.inputValidated = true :=
  loaded_source_composes planner_loaded (new_eq catalog) input planner_required

end Composition.Sample

end Aise.Domain.Prompt
