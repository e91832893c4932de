import Aise.Lib.Grouping
import Aise.Lib.Keyed
import Aise.Prompt.Catalog
import Aise.Prompt.SectionExtractor

/-! Loading a catalog: templates are cut into sections, sections are matched with the assets of the
index, packs are resolved and every binding is checked. The index is kept in hash maps along the way,
whose order is not fixed; it is a parameter here, and whether loading succeeds and what it gives do not
depend on it. In a catalog that was loaded everything that a pack binds is there. -/
namespace Aise.Domain.Prompt
open RustText

structure IndexFile where
  assets : List PromptAssetManifest
  packs : List PromptPack
  defaultPack : String
  policies : List PromptPolicy

/-- An order in which a hash map may be gone through. -/
structure HashOrder where
  of : {α : Type} → List α → List α
  perm : ∀ {α : Type} (items : List α), (of items).Perm items

/-- The loops over hash maps. -/
inductive HashLoop where
  | sources
  | sections (sourcePath : String)
  | packNames
  | packs
  | bindings (packName : String)
  | slots (packName : String)

/-! ### Policies and assets -/

def checkPolicySupport : PromptPolicy → Except PromptError Unit
  | .preamble _ _ _ => .ok ⟨⟩
  | .runtimeGuard name _ => .error (.catalogLoad
      s!"policy `{name}` uses unsupported type `runtime_guard`; only `preamble` is currently supported")
  | .postValidator name => .error (.catalogLoad
      s!"policy `{name}` uses unsupported type `post_validator`; only `preamble` is currently supported")

def validatePolicySupport (policies : List PromptPolicy) : Except PromptError Unit :=
  policies.forM checkPolicySupport

def validateAssetStatus (manifest : PromptAssetManifest) : Except PromptError Unit :=
  Result.failIf (manifest.status ≠ .active) (.catalogLoad
    (s!"asset `{manifest.assetId}` uses unsupported status `{manifest.status.display}`; " ++
      "only `active` assets can be loaded"))

/-- A line of `str::lines`. -/
def withoutLineEnd (line : Line) : Line :=
  match line.dropSuffix? "\n".toList with
  | none => line
  | some line =>
    match line.dropSuffix? "\r".toList with
    | none => line
    | some line => line

/-- The text that is hashed for an asset. -/
def hashedText (templateContent : String) (manifest : PromptAssetManifest) : String :=
  let lines := (Lines.splitInclusive '\n' templateContent.toList).map withoutLineEnd
  let normalized := "\n".intercalate (lines.map fun line => String.ofList (line.rdropWhile isWhitespace))
  let kind := s!"\"{manifest.kind.display}\""
  normalized ++ manifest.assetId ++ kind ++ manifest.inputSchemaRef.getD "" ++
    manifest.outputContractRef.getD ""

/-! ### Sections -/

def checkSectionSlot (part : PromptAssetSection) (slots : SlotRegistry) (firstSlotId : SlotId)
    (firstSlot : SlotSpec) (slotId : SlotId) : Except PromptError Unit := do
  let slot ← Result.okOr slots[slotId]? (.catalogLoad
    s!"section `{part.assetId}` references unknown slot `{slotId}` in `{part.sourceAnchor}`")
  Result.failIf (slot.allowedKinds ≠ firstSlot.allowedKinds) (.catalogLoad
    (s!"section `{part.assetId}` declares multiple slots with different allowed_kinds: " ++
      s!"`{firstSlotId}` vs `{slotId}`"))
  Result.failIf (slot.vars ≠ firstSlot.vars) (.catalogLoad
    (s!"section `{part.assetId}` declares multiple slots with different variable requirements: " ++
      s!"`{firstSlotId}` vs `{slotId}`"))

def validateSectionSlotCompatibility (slots : SlotRegistry) (part : PromptAssetSection) :
    Except PromptError Unit :=
  match part.slotIds with
  | [] => .error (.catalogLoad s!"section `{part.assetId}` must declare at least one slot id")
  | firstSlotId :: others => do
    let firstSlot ← Result.okOr slots[firstSlotId]? (.catalogLoad
      s!"section `{part.assetId}` references unknown slot `{firstSlotId}` in `{part.sourceAnchor}`")
    others.forM (checkSectionSlot part slots firstSlotId firstSlot)

section
variable (orders : HashLoop → HashOrder)

def checkSection (sourcePath : String) (manifests : List PromptAssetManifest) (slots : SlotRegistry)
    (part : PromptAssetSection) : Except PromptError Unit := do
  Result.failIf (part.assetId ∉ manifests.map (·.assetId)) (.catalogLoad
    s!"section `{part.assetId}` in `{sourcePath}` is not registered in index.yaml")
  validateSectionSlotCompatibility slots part

def validateSectionsForSource (sourcePath : String) (manifests : List PromptAssetManifest)
    (sections : BTreeMap AssetRef PromptAssetSection) (slots : SlotRegistry) : Except PromptError Unit := do
  manifests.forM fun manifest => Result.failIf (manifest.assetId ∉ sections) (.catalogLoad
    (s!"asset `{manifest.assetId}` declared in index.yaml does not have a matching section in " ++
      s!"`{sourcePath}`"))
  ((orders (.sections sourcePath)).of (valuesOf sections)).forM (checkSection sourcePath manifests slots)

/-! ### Templates -/

structure LoadedAssets where
  renderer : PromptRenderer
  assets : BTreeMap AssetRef CompiledPromptAsset
  assetSlotIds : BTreeMap AssetRef (List SlotId)

variable {Value : Type} (engine : TemplateEngine Value) (sha256 : String → String)

def computeAssetHash (templateContent : String) (manifest : PromptAssetManifest) : String :=
  s!"sha256:{sha256 (hashedText templateContent manifest)}"

/-- The declared hash, if there is one and it is right. -/
def resolveHash (manifest : PromptAssetManifest) (computedHash : String) : Except PromptError String :=
  match manifest.hash with
  | none => .ok computedHash
  | some declaredHash =>
    if declaredHash ≠ computedHash then .error (.catalogLoad
      (s!"hash mismatch for asset `{manifest.assetId}`: declared={declaredHash}, " ++
        s!"computed={computedHash}"))
    else .ok declaredHash

def loadManifest (sections : BTreeMap AssetRef PromptAssetSection) (loaded : LoadedAssets)
    (manifest : PromptAssetManifest) : Except PromptError LoadedAssets := do
  validateAssetStatus manifest
  let part ← Result.okOr sections[manifest.assetId]? (.catalogLoad
    s!"section missing after validation for `{manifest.assetId}`")
  let assetRef := manifest.assetId
  let resolvedHash ← resolveHash manifest (computeAssetHash sha256 part.body manifest)
  let templateName := manifest.assetId
  let renderer ← PromptRenderer.addTemplate engine loaded.renderer templateName part.body
  Result.failIf (assetRef ∈ loaded.assets) (.catalogLoad
    s!"duplicate asset manifest `{assetRef}` declared in index.yaml")
  return {
    renderer
    assets := loaded.assets.insert assetRef
      { manifest, sourceAnchor := part.sourceAnchor, resolvedHash, templateName }
    assetSlotIds := loaded.assetSlotIds.insert assetRef part.slotIds }

variable (readMetadata : String → Except String SectionMetadata)
  (loadSource : String → Except PromptError String)

def loadSections (sourcePath : String) : Except PromptError (BTreeMap AssetRef PromptAssetSection) := do
  let templateContent ← loadSource sourcePath
  (extractAssetSections readMetadata sourcePath templateContent).mapError fun error =>
    .catalogLoad s!"failed to parse sections in {sourcePath}: {error.display}"

def loadSourceFile (slots : SlotRegistry) (loaded : LoadedAssets) :
    String × List PromptAssetManifest → Except PromptError LoadedAssets
  | (sourcePath, manifests) => do
    let sections ← loadSections readMetadata loadSource sourcePath
    validateSectionsForSource orders sourcePath manifests sections slots
    manifests.foldlM (loadManifest engine sha256 sections) loaded

/-- `manifests_by_source_path`. -/
def manifestsBySourcePath (manifests : List PromptAssetManifest) :
    BTreeMap String (List PromptAssetManifest) :=
  Grouping.group (·.sourcePath) manifests

def loadAssets (slots : SlotRegistry) (manifests : List PromptAssetManifest) :
    Except PromptError LoadedAssets :=
  ((orders .sources).of (manifestsBySourcePath manifests).toList).foldlM
    (loadSourceFile orders engine sha256 readMetadata loadSource slots) ⟨∅, ∅, ∅⟩

/-! ### Packs -/

def registerPack (rawPacks : BTreeMap String PromptPack) (pack : PromptPack) :
    Except PromptError (BTreeMap String PromptPack) :=
  if pack.name ∈ rawPacks then
    .error (.catalogLoad s!"duplicate pack name `{pack.name}` declared in index.yaml")
  else .ok (rawPacks.insert pack.name pack)

def resolveInto (rawPacks : BTreeMap String PromptPack) (resolvedPacks : BTreeMap String ResolvedPack)
    (packName : String) : Except PromptError (BTreeMap String ResolvedPack) := do
  let resolved ← resolvePack rawPacks packName
  return resolvedPacks.insert packName resolved

def checkBinding (loaded : LoadedAssets) (slots : SlotRegistry) (packName : String) :
    SlotId × AssetRef → Except PromptError Unit
  | (slotId, assetRef) => do
    let assetId ← parseAssetRef assetRef
    let compiled ← Result.okOr loaded.assets[assetId]? (.catalogLoad
      s!"pack `{packName}` references unknown asset `{assetRef}` for slot `{slotId}`")
    let declaredSlots ← Result.okOr loaded.assetSlotIds[assetId]? (.catalogLoad
      s!"slot declarations missing for compiled asset `{assetId}`")
    Result.failIf (slotId ∉ declaredSlots) (.catalogLoad
      (s!"pack `{packName}` binds slot `{slotId}` to asset `{assetId}`, " ++
        s!"but section `{compiled.sourceAnchor}` does not declare that slot"))
    PromptCatalog.checkKind slotId slots[slotId]? compiled.manifest.kind

def checkCovered (packName : String) (resolved : ResolvedPack) :
    SlotId × SlotSpec → Except PromptError Unit
  | (slotId, slotSpec) => Result.failIf (slotSpec.required = true ∧ slotId ∉ resolved.resolvedSlots)
      (.catalogLoad s!"pack `{packName}` does not cover required slot `{slotId}`")

def checkPack (loaded : LoadedAssets) (slots : SlotRegistry) :
    String × ResolvedPack → Except PromptError Unit
  | (packName, resolved) => do
    ((orders (.bindings packName)).of resolved.resolvedSlots.toList).forM
      (checkBinding loaded slots packName)
    ((orders (.slots packName)).of slots.toList).forM (checkCovered packName resolved)

/-! ### All of it -/

/-- `load_catalog_contents`, after the YAML is read. -/
def loadCatalogContents (index : IndexFile) (slotSpecs : List SlotSpec) :
    Except PromptError PromptCatalog := do
  let slots ← (registerSlots slotSpecs).mapError fun error =>
    .catalogLoad s!"failed to parse slots.yaml: {error.display}"
  validatePolicySupport index.policies
  let loaded ← loadAssets orders engine sha256 readMetadata loadSource slots index.assets
  let rawPacks ← index.packs.foldlM registerPack ∅
  Result.failIf (index.defaultPack ∉ rawPacks) (.catalogLoad
    s!"resolver default_pack `{index.defaultPack}` does not exist")
  let resolvedPacks ← ((orders .packNames).of rawPacks.keys).foldlM (resolveInto rawPacks) ∅
  ((orders .packs).of resolvedPacks.toList).forM (checkPack orders loaded slots)
  return {
    assets := loaded.assets
    slots
    packs := resolvedPacks
    rawPacks
    defaultPack := index.defaultPack
    policies := index.policies
    renderer := loaded.renderer }

end

/-! ### Loading the assets -/

section
variable {Value : Type} {engine : TemplateEngine Value} {sha256 : String → String}
  {readMetadata : String → Except String SectionMetadata} {loadSource : String → Except PromptError String}
  {orders : HashLoop → HashOrder} {slots : SlotRegistry} {manifest : PromptAssetManifest}
  {manifests : List PromptAssetManifest} {loaded next : LoadedAssets}
  {sections : BTreeMap AssetRef PromptAssetSection} {part : PromptAssetSection}

theorem addTemplate_eq_ok {renderer next : PromptRenderer} {name source : String} :
    PromptRenderer.addTemplate engine renderer name source = .ok next ↔
      engine.compile name source = .ok ⟨⟩ ∧ next = renderer.insert name source := by
  unfold PromptRenderer.addTemplate
  cases engine.compile name source with
  | error error => simp
  | ok value => simp [eq_comm]

theorem resolveHash_eq_ok {computedHash hash : String} :
    resolveHash manifest computedHash = .ok hash ↔
      (∀ declared, manifest.hash = some declared → declared = computedHash) ∧ hash = computedHash := by
  unfold resolveHash
  cases manifest.hash with
  | none => simp [eq_comm]
  | some declared =>
    dsimp only
    split
    · rename_i wrong
      simp [wrong]
    · rename_i right
      rw [not_not] at right
      simp [right, eq_comm]

/-- A section that an asset of the index can be loaded from. -/
structure Compiles (engine : TemplateEngine Value) (sha256 : String → String)
    (manifest : PromptAssetManifest) (part : PromptAssetSection) : Prop where
  active : manifest.status = .active
  hashed : ∀ declared, manifest.hash = some declared → declared = computeAssetHash sha256 part.body manifest
  compiled : engine.compile manifest.assetId part.body = .ok ⟨⟩

def LoadedAssets.add (sha256 : String → String) (loaded : LoadedAssets) (manifest : PromptAssetManifest)
    (part : PromptAssetSection) : LoadedAssets where
  renderer := loaded.renderer.insert manifest.assetId part.body
  assets := loaded.assets.insert manifest.assetId
    { manifest
      sourceAnchor := part.sourceAnchor
      resolvedHash := computeAssetHash sha256 part.body manifest
      templateName := manifest.assetId }
  assetSlotIds := loaded.assetSlotIds.insert manifest.assetId part.slotIds

theorem loadManifest_eq_ok :
    loadManifest engine sha256 sections loaded manifest = .ok next ↔
      ∃ part, sections[manifest.assetId]? = some part ∧ Compiles engine sha256 manifest part ∧
        manifest.assetId ∉ loaded.assets ∧ next = loaded.add sha256 manifest part := by
  constructor
  · intro ok
    obtain ⟨active, ok⟩ := Result.check_bind_eq_ok.mp ok
    obtain ⟨part, stored, ok⟩ := Result.bind_eq_ok ok
    obtain ⟨hash, hashed, ok⟩ := Result.bind_eq_ok ok
    obtain ⟨renderer, added, ok⟩ := Result.bind_eq_ok ok
    obtain ⟨fresh, ok⟩ := Result.check_bind_eq_ok.mp ok
    cases ok
    obtain ⟨declared, rfl⟩ := resolveHash_eq_ok.mp hashed
    obtain ⟨compiled, rfl⟩ := addTemplate_eq_ok.mp added
    exact ⟨part, Result.okOr_eq_ok.mp stored,
      ⟨not_not.mp (Result.failIf_eq_ok.mp active), declared, compiled⟩,
      Result.failIf_eq_ok.mp fresh, rfl⟩
  · rintro ⟨part, stored, compiles, fresh, rfl⟩
    have active : validateAssetStatus manifest = .ok ⟨⟩ :=
      Result.failIf_eq_ok.mpr (not_not.mpr compiles.active)
    have hash := resolveHash_eq_ok.mpr ⟨compiles.hashed, rfl⟩
    have template : PromptRenderer.addTemplate engine loaded.renderer manifest.assetId part.body = .ok _ :=
      addTemplate_eq_ok.mpr ⟨compiles.compiled, rfl⟩
    rw [loadManifest, Result.ok_bind active, Result.ok_bind (Result.okOr_eq_ok.mpr stored)]
    dsimp only
    rw [Result.ok_bind hash, Result.ok_bind template]
    exact Result.check_bind_eq_ok.mpr ⟨Result.failIf_eq_ok.mpr fresh, rfl⟩

/-- The section of an asset, as far as there is one. -/
def sectionOf (readMetadata : String → Except String SectionMetadata)
    (loadSource : String → Except PromptError String) (manifest : PromptAssetManifest) :
    Option PromptAssetSection :=
  (loadSections readMetadata loadSource manifest.sourcePath).toOption.bind fun sections =>
    sections[manifest.assetId]?

/-- An asset that can be loaded. -/
def Loadable (engine : TemplateEngine Value) (sha256 : String → String)
    (readMetadata : String → Except String SectionMetadata)
    (loadSource : String → Except PromptError String) (manifest : PromptAssetManifest) : Prop :=
  ∃ part, sectionOf readMetadata loadSource manifest = some part ∧ Compiles engine sha256 manifest part

def LoadedAssets.addOwn (sha256 : String → String) (readMetadata : String → Except String SectionMetadata)
    (loadSource : String → Except PromptError String) (loaded : LoadedAssets)
    (manifest : PromptAssetManifest) : LoadedAssets :=
  match sectionOf readMetadata loadSource manifest with
  | some part => loaded.add sha256 manifest part
  | none => loaded

/-- Loading an asset by itself, with the file that it is in. -/
def loadAlone (engine : TemplateEngine Value) (sha256 : String → String)
    (readMetadata : String → Except String SectionMetadata)
    (loadSource : String → Except PromptError String) (loaded : LoadedAssets)
    (manifest : PromptAssetManifest) : Except PromptError LoadedAssets := do
  let sections ← loadSections readMetadata loadSource manifest.sourcePath
  loadManifest engine sha256 sections loaded manifest

theorem loadAlone_eq_ok :
    loadAlone engine sha256 readMetadata loadSource loaded manifest = .ok next ↔
      Loadable engine sha256 readMetadata loadSource manifest ∧ manifest.assetId ∉ loaded.assets ∧
        next = loaded.addOwn sha256 readMetadata loadSource manifest := by
  unfold loadAlone Loadable LoadedAssets.addOwn sectionOf
  cases loadSections readMetadata loadSource manifest.sourcePath with
  | error failure => simp [bind, Except.bind, Except.toOption]
  | ok sections =>
    change loadManifest engine sha256 sections loaded manifest = .ok next ↔ _
    rw [loadManifest_eq_ok]
    simp only [Except.toOption, Option.bind_some]
    cases sections[manifest.assetId]? with
    | none => simp
    | some part => simp

/-- The sections of a file that fit its assets and the slots. -/
structure SectionsFit (slots : SlotRegistry) (manifests : List PromptAssetManifest)
    (sections : BTreeMap AssetRef PromptAssetSection) : Prop where
  declared : ∀ manifest ∈ manifests, manifest.assetId ∈ sections
  registered : ∀ part ∈ valuesOf sections, part.assetId ∈ manifests.map (·.assetId)
  compatible : ∀ part ∈ valuesOf sections, validateSectionSlotCompatibility slots part = .ok ⟨⟩

theorem validateSectionsForSource_eq_ok {sourcePath : String} :
    validateSectionsForSource orders sourcePath manifests sections slots = .ok ⟨⟩ ↔
      SectionsFit slots manifests sections := by
  have each (part : PromptAssetSection) : checkSection sourcePath manifests slots part = .ok ⟨⟩ ↔
      part.assetId ∈ manifests.map (·.assetId) ∧ validateSectionSlotCompatibility slots part = .ok ⟨⟩ := by
    rw [checkSection, Result.check_bind_eq_ok, Result.failIf_eq_ok, not_not]
  rw [validateSectionsForSource, Result.check_bind_eq_ok, Result.forM_eq_ok, Result.forM_eq_ok]
  simp only [Result.failIf_eq_ok, not_not, ((orders (.sections sourcePath)).perm _).mem_iff, each]
  constructor
  · rintro ⟨declared, fits⟩
    exact ⟨declared, fun part member => (fits part member).1, fun part member => (fits part member).2⟩
  · rintro ⟨declared, registered, compatible⟩
    exact ⟨declared, fun part member => ⟨registered part member, compatible part member⟩⟩

/-- A template file whose sections fit. -/
def SourceFits (readMetadata : String → Except String SectionMetadata)
    (loadSource : String → Except PromptError String) (slots : SlotRegistry)
    (source : String × List PromptAssetManifest) : Prop :=
  ∃ sections, loadSections readMetadata loadSource source.1 = .ok sections ∧
    SectionsFit slots source.2 sections

theorem foldlM_loadAlone {sourcePath : String}
    (read : loadSections readMetadata loadSource sourcePath = .ok sections)
    (here : ∀ manifest ∈ manifests, manifest.sourcePath = sourcePath) :
    manifests.foldlM (loadAlone engine sha256 readMetadata loadSource) loaded =
      manifests.foldlM (loadManifest engine sha256 sections) loaded := by
  induction manifests generalizing loaded with
  | nil => rfl
  | cons first rest ih =>
    have same : loadAlone engine sha256 readMetadata loadSource loaded first =
        loadManifest engine sha256 sections loaded first := by
      rw [loadAlone, here first List.mem_cons_self, Result.ok_bind read]
    rw [List.foldlM_cons, List.foldlM_cons, same]
    exact congrArg _ (funext fun _ => ih fun other member => here other (List.mem_cons_of_mem _ member))

theorem loadSourceFile_eq_ok {source : String × List PromptAssetManifest}
    (here : ∀ manifest ∈ source.2, manifest.sourcePath = source.1) :
    loadSourceFile orders engine sha256 readMetadata loadSource slots loaded source = .ok next ↔
      SourceFits readMetadata loadSource slots source ∧
        source.2.foldlM (loadAlone engine sha256 readMetadata loadSource) loaded = .ok next := by
  obtain ⟨sourcePath, manifests⟩ := source
  constructor
  · intro ok
    obtain ⟨sections, read, ok⟩ := Result.bind_eq_ok ok
    obtain ⟨fits, ok⟩ := Result.check_bind_eq_ok.mp ok
    refine ⟨⟨sections, read, validateSectionsForSource_eq_ok.mp fits⟩, ?_⟩
    rwa [foldlM_loadAlone read here]
  · rintro ⟨⟨sections, read, fits⟩, ok⟩
    rw [loadSourceFile, Result.ok_bind read]
    rw [foldlM_loadAlone read here] at ok
    exact Result.check_bind_eq_ok.mpr ⟨validateSectionsForSource_eq_ok.mpr fits, ok⟩

/-- What is known of an asset once all are loaded. -/
def LoadedAssets.look (loaded : LoadedAssets) (assetId : AssetRef) :
    Option String × Option CompiledPromptAsset × Option (List SlotId) :=
  (loaded.renderer[assetId]?, loaded.assets[assetId]?, loaded.assetSlotIds[assetId]?)

/-- What an asset that is loaded is known as. -/
def loadedAs (sha256 : String → String) (manifest : PromptAssetManifest) (part : PromptAssetSection) :
    Option String × Option CompiledPromptAsset × Option (List SlotId) :=
  (some part.body,
    some {
      manifest
      sourceAnchor := part.sourceAnchor
      resolvedHash := computeAssetHash sha256 part.body manifest
      templateName := manifest.assetId },
    some part.slotIds)

def loadEffect (sha256 : String → String) (readMetadata : String → Except String SectionMetadata)
    (loadSource : String → Except PromptError String) (manifest : PromptAssetManifest)
    (old : Option String × Option CompiledPromptAsset × Option (List SlotId)) :
    Option String × Option CompiledPromptAsset × Option (List SlotId) :=
  match sectionOf readMetadata loadSource manifest with
  | some part => loadedAs sha256 manifest part
  | none => old

theorem addOwn_pointwise :
    Keyed.Pointwise (·.assetId) (loadEffect sha256 readMetadata loadSource)
      (LoadedAssets.addOwn sha256 readMetadata loadSource) LoadedAssets.look := by
  intro loaded manifest assetId
  unfold LoadedAssets.addOwn loadEffect
  cases sectionOf readMetadata loadSource manifest with
  | none => simp
  | some part =>
    simp only [LoadedAssets.look, LoadedAssets.add, OrdMap.get_insert]
    split
    · rfl
    · rfl

theorem mem_addOwn (fit : Loadable engine sha256 readMetadata loadSource manifest) (assetId : AssetRef) :
    assetId ∈ (loaded.addOwn sha256 readMetadata loadSource manifest).assets ↔
      assetId = manifest.assetId ∨ assetId ∈ loaded.assets := by
  obtain ⟨part, own, _⟩ := fit
  simp only [LoadedAssets.addOwn, own, LoadedAssets.add, Std.ExtTreeMap.mem_insert, Std.compare_eq_iff_eq]
  exact or_congr_left eq_comm

/-- The assets of an index that can be loaded, whatever the order of their files. -/
structure AssetsFit (engine : TemplateEngine Value) (sha256 : String → String)
    (readMetadata : String → Except String SectionMetadata)
    (loadSource : String → Except PromptError String) (slots : SlotRegistry)
    (manifests : List PromptAssetManifest) : Prop where
  sources : ∀ source ∈ (manifestsBySourcePath manifests).toList,
    SourceFits readMetadata loadSource slots source
  loadable : ∀ manifest ∈ manifests, Loadable engine sha256 readMetadata loadSource manifest
  distinct : (manifests.map (·.assetId)).Nodup

/-- The assets of an index as they are loaded one after the other. -/
def allAssets (sha256 : String → String) (readMetadata : String → Except String SectionMetadata)
    (loadSource : String → Except PromptError String) (manifests : List PromptAssetManifest) : LoadedAssets :=
  manifests.foldl (LoadedAssets.addOwn sha256 readMetadata loadSource) ⟨∅, ∅, ∅⟩

theorem LoadedAssets.ext_look {first second : LoadedAssets}
    (same : ∀ assetId, first.look assetId = second.look assetId) : first = second := by
  obtain ⟨renderer, assets, slotIds⟩ := first
  obtain ⟨otherRenderer, otherAssets, otherSlotIds⟩ := second
  simp only [LoadedAssets.look, Prod.mk.injEq] at same
  congr
  · exact Std.ExtTreeMap.ext_getElem? fun assetId => (same assetId).1
  · exact Std.ExtTreeMap.ext_getElem? fun assetId => (same assetId).2.1
  · exact Std.ExtTreeMap.ext_getElem? fun assetId => (same assetId).2.2

theorem foldlM_loadAlone_iff {loaded next : LoadedAssets} :
    manifests.foldlM (loadAlone engine sha256 readMetadata loadSource) loaded = .ok next ↔
      (∀ manifest ∈ manifests, Loadable engine sha256 readMetadata loadSource manifest) ∧
        (manifests.map (·.assetId)).Nodup ∧ (∀ manifest ∈ manifests, manifest.assetId ∉ loaded.assets) ∧
        next = manifests.foldl (LoadedAssets.addOwn sha256 readMetadata loadSource) loaded :=
  Result.foldlM_fresh_iff PromptAssetManifest.assetId (fun (loaded : LoadedAssets) assetId =>
      assetId ∈ loaded.assets)
    (fun _ _ _ => loadAlone_eq_ok) (fun _ _ assetId fit => mem_addOwn fit assetId)

/-- The order of the files has no part in whether the assets load and what they give. -/
theorem loadAssets_iff :
    loadAssets orders engine sha256 readMetadata loadSource slots manifests = .ok loaded ↔
      AssetsFit engine sha256 readMetadata loadSource slots manifests ∧
        loaded = allAssets sha256 readMetadata loadSource manifests := by
  have shuffled := (orders .sources).perm (manifestsBySourcePath manifests).toList
  have visited := (shuffled.flatMap_right (·.2)).trans (Grouping.flatMap_group_perm manifests)
  have here : ∀ source ∈ (orders .sources).of (manifestsBySourcePath manifests).toList,
      ∀ manifest ∈ source.2, manifest.sourcePath = source.1 := by
    intro source member manifest inside
    have stored := Std.ExtTreeMap.mem_toList_iff_getElem?_eq_some.mp (shuffled.mem_iff.mp member)
    rw [Grouping.get_group stored] at inside
    simpa using (List.mem_filter.mp inside).2
  have files : loadAssets orders engine sha256 readMetadata loadSource slots manifests = .ok loaded ↔
      (∀ source ∈ (orders .sources).of (manifestsBySourcePath manifests).toList,
          SourceFits readMetadata loadSource slots source) ∧
        (((orders .sources).of (manifestsBySourcePath manifests).toList).flatMap (·.2)).foldlM
          (loadAlone engine sha256 readMetadata loadSource) ⟨∅, ∅, ∅⟩ = .ok loaded := by
    refine Result.foldlM_flatMap_iff ?_
    intro source member total next
    exact loadSourceFile_eq_ok (here source member)
  have ordered (distinct : (manifests.map (·.assetId)).Nodup) :
      (((orders .sources).of (manifestsBySourcePath manifests).toList).flatMap (·.2)).foldl
          (LoadedAssets.addOwn sha256 readMetadata loadSource) ⟨∅, ∅, ∅⟩ =
        allAssets sha256 readMetadata loadSource manifests :=
    LoadedAssets.ext_look fun assetId => Keyed.look_perm addOwn_pointwise distinct visited _ assetId
  rw [files, foldlM_loadAlone_iff]
  simp only [shuffled.mem_iff, visited.mem_iff, (visited.map _).nodup_iff]
  constructor
  · rintro ⟨sources, loadable, distinct, _, rfl⟩
    exact ⟨⟨sources, loadable, distinct⟩, ordered distinct⟩
  · rintro ⟨⟨sources, loadable, distinct⟩, rfl⟩
    exact ⟨sources, loadable, distinct, fun _ _ => Std.ExtTreeMap.not_mem_empty, (ordered distinct).symm⟩

/-! ### Loading the catalog -/

theorem foldlM_resolveInto {rawPacks : BTreeMap String PromptPack}
    {resolvedPacks result : BTreeMap String ResolvedPack} {names : List String} :
    names.foldlM (resolveInto rawPacks) resolvedPacks = .ok result ↔
      (∀ name ∈ names, ∃ resolved, resolvePack rawPacks name = .ok resolved) ∧
        ∀ name, result[name]? =
          if name ∈ names then (resolvePack rawPacks name).toOption else resolvedPacks[name]? := by
  induction names generalizing resolvedPacks with
  | nil =>
    simp only [List.foldlM_nil, pure, Except.pure, Except.ok.injEq, List.not_mem_nil, if_false, false_imp_iff,
      implies_true, true_and]
    constructor
    · rintro rfl
      exact fun _ => rfl
    · exact fun same => (Std.ExtTreeMap.ext_getElem? same).symm
  | cons first rest ih =>
    rw [List.foldlM_cons, List.forall_mem_cons]
    cases resolves : resolvePack rawPacks first with
    | error failure => simp [resolveInto, resolves, bind, Except.bind]
    | ok resolved =>
      rw [resolveInto, Result.ok_bind resolves]
      change rest.foldlM (resolveInto rawPacks) (resolvedPacks.insert first resolved) = _ ↔ _
      rw [ih]
      refine and_congr (by simp) (forall_congr' fun name => ?_)
      rw [OrdMap.get_insert]
      by_cases later : name ∈ rest
      · simp [later]
      · by_cases same : first = name
        · subst same
          simp [later, resolves, Except.toOption]
        · simp [later, same, Ne.symm same]

/-- What a pack binds is loaded, meant for the slot, and of a kind that the slot accepts. -/
structure BindingFits (loaded : LoadedAssets) (slots : SlotRegistry) (slotId : SlotId) (assetRef : AssetRef)
    (compiled : CompiledPromptAsset) (declaredSlots : List SlotId) : Prop where
  parsed : parseAssetRef assetRef = .ok assetRef
  stored : loaded.assets[assetRef]? = some compiled
  declares : loaded.assetSlotIds[assetRef]? = some declaredSlots
  meant : slotId ∈ declaredSlots
  accepted : ∀ spec, slots[slotId]? = some spec → spec.acceptsKind compiled.manifest.kind = true

theorem parseAssetRef_eq_ok {assetRef assetId : String} (ok : parseAssetRef assetRef = .ok assetId) :
    assetId = assetRef := by
  unfold parseAssetRef at ok
  split at ok
  · cases ok
  · split at ok
    · cases ok
    · cases ok
      rfl

theorem checkKind_eq_ok {slotId : SlotId} {slotSpec : Option SlotSpec} {kind : PromptKind} :
    PromptCatalog.checkKind slotId slotSpec kind = .ok ⟨⟩ ↔
      ∀ spec, slotSpec = some spec → spec.acceptsKind kind = true := by
  cases slotSpec with
  | none => simp [PromptCatalog.checkKind]
  | some spec => simp [PromptCatalog.checkKind, Result.failIf_eq_ok]

theorem checkBinding_eq_ok {packName : String} {binding : SlotId × AssetRef} :
    checkBinding loaded slots packName binding = .ok ⟨⟩ ↔
      ∃ compiled declaredSlots, BindingFits loaded slots binding.1 binding.2 compiled declaredSlots := by
  obtain ⟨slotId, assetRef⟩ := binding
  constructor
  · intro ok
    obtain ⟨assetId, parsed, ok⟩ := Result.bind_eq_ok ok
    obtain ⟨compiled, stored, ok⟩ := Result.bind_eq_ok ok
    obtain ⟨declared, declares, ok⟩ := Result.bind_eq_ok ok
    obtain ⟨meant, accepted⟩ := Result.check_bind_eq_ok.mp ok
    cases parseAssetRef_eq_ok parsed
    exact ⟨compiled, declared, parsed, Result.okOr_eq_ok.mp stored, Result.okOr_eq_ok.mp declares,
      not_not.mp (Result.failIf_eq_ok.mp meant), checkKind_eq_ok.mp accepted⟩
  · rintro ⟨compiled, declared, fits⟩
    rw [checkBinding, Result.ok_bind fits.parsed, Result.ok_bind (Result.okOr_eq_ok.mpr fits.stored),
      Result.ok_bind (Result.okOr_eq_ok.mpr fits.declares)]
    exact Result.check_bind_eq_ok.mpr
      ⟨Result.failIf_eq_ok.mpr (not_not.mpr fits.meant), checkKind_eq_ok.mpr fits.accepted⟩

/-- A resolved pack whose bindings fit and that has every slot that is required. -/
structure PackFits (loaded : LoadedAssets) (slots : SlotRegistry) (resolved : ResolvedPack) : Prop where
  bindings : ∀ slotId assetRef, resolved.resolvedSlots[slotId]? = some assetRef →
    ∃ compiled declaredSlots, BindingFits loaded slots slotId assetRef compiled declaredSlots
  covered : ∀ slotId spec, slots[slotId]? = some spec → spec.required = true → slotId ∈ resolved.resolvedSlots

theorem checkPack_eq_ok {pack : String × ResolvedPack} :
    checkPack orders loaded slots pack = .ok ⟨⟩ ↔ PackFits loaded slots pack.2 := by
  obtain ⟨packName, resolved⟩ := pack
  rw [checkPack, Result.check_bind_eq_ok, Result.forM_eq_ok, Result.forM_eq_ok]
  simp only [((orders (.bindings packName)).perm _).mem_iff, ((orders (.slots packName)).perm _).mem_iff,
    checkBinding_eq_ok, checkCovered, Result.failIf_eq_ok, Prod.forall,
    Std.ExtTreeMap.mem_toList_iff_getElem?_eq_some, not_and, not_not]
  constructor
  · rintro ⟨bindings, covered⟩
    exact ⟨bindings, covered⟩
  · intro fits
    exact ⟨fits.bindings, fits.covered⟩

/-- What loading gives, with nothing said of any order. -/
structure Loads (engine : TemplateEngine Value) (sha256 : String → String)
    (readMetadata : String → Except String SectionMetadata)
    (loadSource : String → Except PromptError String) (index : IndexFile) (slotSpecs : List SlotSpec)
    (catalog : PromptCatalog) : Prop where
  slots : registerSlots slotSpecs = .ok catalog.slots
  supported : validatePolicySupport index.policies = .ok ⟨⟩
  assets : AssetsFit engine sha256 readMetadata loadSource catalog.slots index.assets
  loaded : catalog.assets = (allAssets sha256 readMetadata loadSource index.assets).assets
  rendered : catalog.renderer = (allAssets sha256 readMetadata loadSource index.assets).renderer
  raw : index.packs.foldlM registerPack ∅ = .ok catalog.rawPacks
  selected : index.defaultPack ∈ catalog.rawPacks
  resolves : ∀ name ∈ catalog.rawPacks, ∃ resolved, resolvePack catalog.rawPacks name = .ok resolved
  packs : ∀ name : String, catalog.packs[name]? =
    if name ∈ catalog.rawPacks then (resolvePack catalog.rawPacks name).toOption else none
  fits : ∀ (name : String) (resolved : ResolvedPack), catalog.packs[name]? = some resolved →
    PackFits (allAssets sha256 readMetadata loadSource index.assets) catalog.slots resolved
  default : catalog.defaultPack = index.defaultPack
  policies : catalog.policies = index.policies

theorem load_iff {index : IndexFile} {slotSpecs : List SlotSpec} {catalog : PromptCatalog} :
    loadCatalogContents orders engine sha256 readMetadata loadSource index slotSpecs = .ok catalog ↔
      Loads engine sha256 readMetadata loadSource index slotSpecs catalog := by
  have names (rawPacks : BTreeMap String PromptPack) (result : BTreeMap String ResolvedPack) :
      ((orders .packNames).of rawPacks.keys).foldlM (resolveInto rawPacks) ∅ = .ok result ↔
        (∀ name ∈ rawPacks, ∃ resolved, resolvePack rawPacks name = .ok resolved) ∧
          ∀ name : String, result[name]? =
            if name ∈ rawPacks then (resolvePack rawPacks name).toOption else none := by
    rw [foldlM_resolveInto]
    simp only [((orders .packNames).perm _).mem_iff, Std.ExtTreeMap.mem_keys, Std.ExtTreeMap.getElem?_empty]
  have packs (loaded : LoadedAssets) (slots : SlotRegistry) (resolvedPacks : BTreeMap String ResolvedPack) :
      ((orders .packs).of resolvedPacks.toList).forM (checkPack orders loaded slots) = .ok ⟨⟩ ↔
        ∀ (name : String) (resolved : ResolvedPack), resolvedPacks[name]? = some resolved →
          PackFits loaded slots resolved := by
    rw [Result.forM_eq_ok]
    simp only [((orders .packs).perm _).mem_iff, checkPack_eq_ok, Prod.forall,
      Std.ExtTreeMap.mem_toList_iff_getElem?_eq_some]
  constructor
  · intro ok
    obtain ⟨slots, registered, ok⟩ := Result.bind_eq_ok ok
    obtain ⟨supported, ok⟩ := Result.check_bind_eq_ok.mp ok
    obtain ⟨loaded, assets, ok⟩ := Result.bind_eq_ok ok
    obtain ⟨rawPacks, raw, ok⟩ := Result.bind_eq_ok ok
    obtain ⟨selected, ok⟩ := Result.check_bind_eq_ok.mp ok
    obtain ⟨resolvedPacks, resolved, ok⟩ := Result.bind_eq_ok ok
    obtain ⟨checked, ok⟩ := Result.check_bind_eq_ok.mp ok
    cases ok
    obtain ⟨fit, rfl⟩ := loadAssets_iff.mp assets
    obtain ⟨resolves, known⟩ := (names rawPacks resolvedPacks).mp resolved
    exact {
      slots := Result.mapError_eq_ok.mp registered
      supported
      assets := fit
      loaded := rfl
      rendered := rfl
      raw
      selected := not_not.mp (Result.failIf_eq_ok.mp selected)
      resolves
      packs := known
      fits := (packs _ slots resolvedPacks).mp checked
      default := rfl
      policies := rfl }
  · obtain ⟨assets, slots, resolvedPacks, rawPacks, defaultPack, policies, renderer⟩ := catalog
    intro loads
    cases loads.loaded
    cases loads.rendered
    cases loads.default
    cases loads.policies
    rw [loadCatalogContents, Result.ok_bind (Result.mapError_eq_ok.mpr loads.slots),
      Result.ok_bind loads.supported, Result.ok_bind (loadAssets_iff.mpr ⟨loads.assets, rfl⟩),
      Result.ok_bind loads.raw]
    refine Result.check_bind_eq_ok.mpr ⟨Result.failIf_eq_ok.mpr (not_not.mpr loads.selected), ?_⟩
    rw [Result.ok_bind ((names rawPacks resolvedPacks).mpr ⟨loads.resolves, loads.packs⟩)]
    exact Result.check_bind_eq_ok.mpr ⟨(packs _ slots resolvedPacks).mpr loads.fits, rfl⟩

/-- Whether a catalog loads, and which one it is, does not depend on the order of any hash map. -/
theorem load_catalog_any_order (orders others : HashLoop → HashOrder) (index : IndexFile)
    (slotSpecs : List SlotSpec) :
    (loadCatalogContents orders engine sha256 readMetadata loadSource index slotSpecs).toOption =
      (loadCatalogContents others engine sha256 readMetadata loadSource index slotSpecs).toOption := by
  have loads (orders : HashLoop → HashOrder) (catalog : PromptCatalog) :
      (loadCatalogContents orders engine sha256 readMetadata loadSource index slotSpecs).toOption =
          some catalog ↔ Loads engine sha256 readMetadata loadSource index slotSpecs catalog := by
    constructor
    · exact fun ok => load_iff.mp (Result.toOption_eq_some ok)
    · intro loaded
      rw [load_iff.mpr loaded]
      rfl
  apply Option.ext
  intro catalog
  rw [loads orders, loads others]

/-! ### What is known of a catalog that was loaded -/

theorem compatible_slots (ok : validateSectionSlotCompatibility slots part = .ok ⟨⟩) {slotId : SlotId}
    (member : slotId ∈ part.slotIds) : ∃ spec, slots[slotId]? = some spec := by
  unfold validateSectionSlotCompatibility at ok
  cases ids : part.slotIds with
  | nil =>
    rw [ids] at member
    cases member
  | cons first others =>
    rw [ids] at ok member
    obtain ⟨firstSlot, known, ok⟩ := Result.bind_eq_ok ok
    rcases List.mem_cons.mp member with rfl | later
    · exact ⟨firstSlot, Result.okOr_eq_ok.mp known⟩
    · have checked := Result.forM_eq_ok.mp ok slotId later
      obtain ⟨slot, found, _⟩ := Result.bind_eq_ok checked
      exact ⟨slot, Result.okOr_eq_ok.mp found⟩

/-- A slot that a loaded section is meant for is one of the registry. -/
theorem section_slots (fit : AssetsFit engine sha256 readMetadata loadSource slots manifests)
    (member : manifest ∈ manifests) (own : sectionOf readMetadata loadSource manifest = some part)
    {slotId : SlotId} (meant : slotId ∈ part.slotIds) : ∃ spec, slots[slotId]? = some spec := by
  have grouped : manifest.sourcePath ∈ manifestsBySourcePath manifests :=
    (Grouping.mem_group manifests _).mpr (List.mem_map_of_mem member)
  obtain ⟨group, found⟩ := OrdMap.mem_iff_exists.mp grouped
  obtain ⟨sections, read, fits⟩ :=
    fit.sources _ (Std.ExtTreeMap.mem_toList_iff_getElem?_eq_some.mpr found)
  rw [sectionOf, read] at own
  exact compatible_slots (fits.compatible part (mem_valuesOf.mpr ⟨_, own⟩)) meant

/-- What is loaded under a name comes from an asset of the index. -/
theorem look_allAssets (fit : AssetsFit engine sha256 readMetadata loadSource slots manifests)
    (assetId : AssetRef) :
    (allAssets sha256 readMetadata loadSource manifests).look assetId = (none, none, none) ∨
      ∃ manifest ∈ manifests, manifest.assetId = assetId ∧
        ∃ part, sectionOf readMetadata loadSource manifest = some part ∧
          (allAssets sha256 readMetadata loadSource manifests).look assetId =
            loadedAs sha256 manifest part := by
  rcases Keyed.look_cases addOwn_pointwise fit.distinct ⟨∅, ∅, ∅⟩ assetId with
    ⟨_, same⟩ | ⟨manifest, member, here, edited⟩
  · exact .inl same
  · obtain ⟨part, own, _⟩ := fit.loadable manifest member
    refine .inr ⟨manifest, member, here, part, own, ?_⟩
    rw [allAssets, edited, loadEffect, own]

theorem loaded_catalog_linked {index : IndexFile} {slotSpecs : List SlotSpec} {catalog : PromptCatalog}
    (ok : loadCatalogContents orders engine sha256 readMetadata loadSource index slotSpecs = .ok catalog) :
    catalog.Linked := by
  have loads := load_iff.mp ok
  constructor
  · obtain ⟨resolved, resolves⟩ := loads.resolves _ loads.selected
    refine ⟨resolved, ?_⟩
    rw [loads.default, loads.packs, if_pos loads.selected, resolves]
    rfl
  · intro packName resolved slotId assetRef known bound
    obtain ⟨compiled, declared, fits⟩ := (loads.fits packName resolved known).bindings slotId assetRef bound
    have stored := fits.stored
    have declares := fits.declares
    rcases look_allAssets loads.assets assetRef with absent | ⟨manifest, member, here, part, own, look⟩
    · have missing : some compiled = none := stored.symm.trans (congrArg (·.2.1) absent)
      cases missing
    · have template : _ = some part.body := congrArg (·.1) look
      have same : some compiled = _ := stored.symm.trans (congrArg (·.2.1) look)
      have slots : some declared = some part.slotIds := declares.symm.trans (congrArg (·.2.2) look)
      cases slots
      obtain ⟨spec, registered⟩ := section_slots loads.assets member own fits.meant
      refine ⟨fits.parsed, spec, compiled, registered, ?_, fits.accepted spec registered, ?_⟩
      · rw [loads.loaded]
        exact stored
      · rw [Option.some.inj same, loads.rendered]
        exact OrdMap.mem_iff_exists.mpr ⟨part.body, here ▸ template⟩
  · intro packName resolved slotId spec known declared required
    exact OrdMap.mem_iff_exists.mp ((loads.fits packName resolved known).covered slotId spec declared required)

/-- In a catalog that was loaded, a slot that is required can be rendered with every pack that there is.
It fails only over the variables, the template or the contract, and a prompt that it gives has checked
variables, the kind of its asset and the text that the contract asks for. -/
theorem loaded_catalog_renders {index : IndexFile} {slotSpecs : List SlotSpec} {catalog : PromptCatalog}
    {options : PromptRenderOptions} {slotId : SlotId} {spec : SlotSpec} (vars : BTreeMap String Value)
    (ok : loadCatalogContents orders engine sha256 readMetadata loadSource index slotSpecs = .ok catalog)
    (known : ∀ packName, options.packOverride = some packName → packName ∈ catalog.packs)
    (declared : catalog.slots[slotId]? = some spec) (required : spec.required = true) :
    ∃ (assetRef : AssetRef) (compiled : CompiledPromptAsset), catalog.assets[assetRef]? = some compiled ∧
      spec.acceptsKind compiled.manifest.kind = true ∧
      Result.OnlyFails (RenderFailure slotId compiled.templateName)
        (catalog.renderSlot engine slotId vars options) ∧
      ∀ rendered metadata, catalog.renderSlot engine slotId vars options = .ok (rendered, metadata) →
        RenderedWell engine spec compiled vars rendered metadata := by
  have linked := loaded_catalog_linked ok
  obtain ⟨resolved, selected⟩ :
      ∃ resolved, catalog.packs[(selectPack catalog.defaultPack options).1]? = some resolved := by
    unfold selectPack
    split
    · rename_i packName chosen
      exact OrdMap.mem_iff_exists.mp (known packName chosen)
    · exact linked.default
  obtain ⟨assetRef, bound⟩ := linked.covered selected declared required
  obtain ⟨own, compiled, registered, stored, accepted, fails, well⟩ :=
    renderSlot_linked engine vars linked selected bound
  rw [declared] at registered
  cases registered
  exact ⟨assetRef, compiled, stored, accepted, fails, well⟩

end

namespace Loader.Sample

def inOrder (_ : HashLoop) : HashOrder := ⟨fun items => items, fun _ => .rfl⟩

/-- Templates without variables, and no messages. -/
def engine : TemplateEngine Unit where
  compile _ _ := .ok ⟨⟩
  render templates name _ := .ok ((templates[name]?).getD "")
  notFound name := name
  readMessages _ := .ok []
  typeOf _ := .null

def planSlot : SlotSpec where
  slotId := "plan"
  allowedKinds := [.text]
  required := true
  structuredOutput := false
  outputContractRequired := false
  optimizable := false
  allowChildRender := false
  vars := []
  outputContract := none

def index : IndexFile where
  assets := [⟨"plan/system", .text, "plan.md.j2", none, none, none, .active⟩]
  packs := [⟨"base", none, (∅ : BTreeMap SlotId AssetRef).insert "plan" "plan/system"⟩]
  defaultPack := "base"
  policies := []

def planTemplate : String := "\x7b# @asset plan/system #\x7d\nthink\n\x7b# @endasset #\x7d\n"

def loading : Except PromptError PromptCatalog :=
  loadCatalogContents inOrder engine id (fun text => .ok ⟨text, ["plan"]⟩) (fun _ => .ok planTemplate) index
    [planSlot]

def catalog : PromptCatalog := loading.toOption.getD ⟨∅, ∅, ∅, ∅, "", [], ∅⟩

theorem plan_loaded : loading = .ok catalog := Result.eq_ok_of_isSome (by decide +kernel) _

theorem plan_renders :
    ∃ (assetRef : AssetRef) (compiled : CompiledPromptAsset), catalog.assets[assetRef]? = some compiled ∧
      planSlot.acceptsKind compiled.manifest.kind = true ∧
      Result.OnlyFails (RenderFailure "plan" compiled.templateName)
        (catalog.renderSlot engine "plan" ∅ ⟨none⟩) ∧
      ∀ rendered metadata, catalog.renderSlot engine "plan" ∅ ⟨none⟩ = .ok (rendered, metadata) →
        RenderedWell engine planSlot compiled ∅ rendered metadata :=
  loaded_catalog_renders ∅ plan_loaded (fun _ chosen => by cases chosen) (by decide +kernel) rfl

end Loader.Sample

end Aise.Domain.Prompt
