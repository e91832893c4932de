import Aise.Story.ReadSnapshot

/-! How the active constraints of a story are stored, and what their column is read as. -/
namespace Aise.Domain
open RustText SerdeJson

/-! ### Numbers of segments -/

def storySequenceCodec : Codec StorySequence :=
  unsigned64.imap StorySequence.mk StorySequence.get (fun _ => rfl) (fun _ => rfl)

/-! ### Scopes, requirements and lifecycles -/

def sceneVariant : Variant "kind" (AssetKey × Unit) where
  name := "scene"
  fields := .cons "scene_key" assetKeyCodec none .nil
  needed := 1
  distinct := show ["scene_key"].Nodup by decide
  apart := show "kind" ∉ ["scene_key"] by decide

def roleVariant : Variant "kind" (RoleId × Unit) where
  name := "role"
  fields := .cons "role_id" roleIdCodec none .nil
  needed := 1
  distinct := show ["role_id"].Nodup by decide
  apart := show "kind" ∉ ["role_id"] by decide

def storyConstraintScopeCodec : Codec StoryConstraintScope :=
  ((Variants.unit "story").or
    ((Variants.one sceneVariant).or (.one roleVariant) fun _ _ => show "scene" ≠ "role" by decide)
    fun _ other => by
      rcases other with _ | _
      · exact (show "story" ≠ "scene" by decide)
      · exact (show "story" ≠ "role" by decide)).codec.imap
    (fun
      | .inl _ => .story
      | .inr (.inl (sceneKey, _)) => .scene sceneKey
      | .inr (.inr (roleId, _)) => .role roleId)
    (fun
      | .story => .inl ⟨⟩
      | .scene sceneKey => .inr (.inl (sceneKey, ⟨⟩))
      | .role roleId => .inr (.inr (roleId, ⟨⟩)))
    (fun scope => by cases scope <;> rfl) (fun parts => by rcases parts with _ | _ | _ <;> rfl)

/-- `Require` and `Forbid` have the same field. -/
def statementVariant (name : String) : Variant "kind" (BoundedText × Unit) where
  name
  fields := .cons "statement" boundedTextCodec none .nil
  needed := 1
  distinct := show ["statement"].Nodup by decide
  apart := show "kind" ∉ ["statement"] by decide

def storyConstraintRequirementCodec : Codec StoryConstraintRequirement :=
  ((statementVariant "require").either (statementVariant "forbid") (by decide)).imap
    (fun
      | .inl (statement, _) => .require statement
      | .inr (statement, _) => .forbid statement)
    (fun
      | .require statement => .inl (statement, ⟨⟩)
      | .forbid statement => .inr (statement, ⟨⟩))
    (fun requirement => by cases requirement <;> rfl) (fun parts => by cases parts <;> rfl)

def throughSequenceVariant : Variant "kind" (StorySequence × Unit) where
  name := "through_sequence"
  fields := .cons "sequence" storySequenceCodec none .nil
  needed := 1
  distinct := show ["sequence"].Nodup by decide
  apart := show "kind" ∉ ["sequence"] by decide

def untilNarrativeNodeResolvedVariant : Variant "kind" (AssetKey × Unit) where
  name := "until_narrative_node_resolved"
  fields := .cons "node_key" assetKeyCodec none .nil
  needed := 1
  distinct := show ["node_key"].Nodup by decide
  apart := show "kind" ∉ ["node_key"] by decide

def storyConstraintLifecycleCodec : Codec StoryConstraintLifecycle :=
  ((Variants.unit "persistent").or
    ((Variants.one throughSequenceVariant).or (.one untilNarrativeNodeResolvedVariant) fun _ _ =>
      show "through_sequence" ≠ "until_narrative_node_resolved" by decide)
    fun _ other => by
      rcases other with _ | _
      · exact (show "persistent" ≠ "through_sequence" by decide)
      · exact (show "persistent" ≠ "until_narrative_node_resolved" by decide)).codec.imap
    (fun
      | .inl _ => .persistent
      | .inr (.inl (sequence, _)) => .throughSequence sequence
      | .inr (.inr (nodeKey, _)) => .untilNarrativeNodeResolved nodeKey)
    (fun
      | .persistent => .inl ⟨⟩
      | .throughSequence sequence => .inr (.inl (sequence, ⟨⟩))
      | .untilNarrativeNodeResolved nodeKey => .inr (.inr (nodeKey, ⟨⟩)))
    (fun lifecycle => by cases lifecycle <;> rfl) (fun parts => by rcases parts with _ | _ | _ <;> rfl)

/-! ### Sources -/

def storyConstraintSourceFields : Fields (AssetKey × AssetKey × Unit) :=
  .cons "pack_id" assetKeyCodec none <| .cons "constraint_key" assetKeyCodec none .nil

theorem storyConstraintSource_distinct : storyConstraintSourceFields.names.Nodup :=
  show ["pack_id", "constraint_key"].Nodup by decide

/-- The tag of the struct is written with its name. -/
def StoryConstraintSource.toJson (source : StoryConstraintSource) : Json :=
  storyConstraintSourceFields.tagged "kind" "StoryConstraintSource"
    (source.packId, source.constraintKey, ⟨⟩)

/-- Other fields than these two are refused, and the tag is one. -/
def StoryConstraintSource.ofJson (json : Json) : Option StoryConstraintSource :=
  ((storyConstraintSourceFields.codec 2 storyConstraintSource_distinct).decode json).map
    fun (packId, constraintKey, _) => ⟨packId, constraintKey⟩

theorem StoryConstraintSource.ofJson_toJson (source : StoryConstraintSource) :
    StoryConstraintSource.ofJson source.toJson = none := by
  have apart : "kind" ∉ storyConstraintSourceFields.names :=
    show "kind" ∉ ["pack_id", "constraint_key"] by decide
  unfold ofJson toJson
  rw [Fields.tagged_refused apart]
  rfl

/-! ### Active constraints -/

/-- `ConstraintId::try_new(value).ok()`. -/
def constraintIdCodec : Codec String :=
  .text id (fun value => if isBlank value then none else some value) (fun value => isBlank value = false)
    (fun _ readable => by simp [readable])
    (fun _ _ read => by
      split at read
      · cases read
      · rename_i written
        cases read
        simpa using written)

def ActiveStoryConstraint.toJson (constraint : ActiveStoryConstraint) : Json := .obj [
  ("id", constraintIdCodec.encode constraint.id),
  ("source", constraint.source.toJson),
  ("scope", storyConstraintScopeCodec.encode constraint.scope),
  ("requirement", storyConstraintRequirementCodec.encode constraint.requirement),
  ("lifecycle", storyConstraintLifecycleCodec.encode constraint.lifecycle)]

def ActiveStoryConstraint.ofJson (json : Json) : Option ActiveStoryConstraint := do
  match ← Fields.find ["id", "source", "scope", "requirement", "lifecycle"] 5 json with
  | [some id, some source, some scope, some requirement, some lifecycle] => return {
      id := ← constraintIdCodec.decode id
      source := ← StoryConstraintSource.ofJson source
      scope := ← storyConstraintScopeCodec.decode scope
      requirement := ← storyConstraintRequirementCodec.decode requirement
      lifecycle := ← storyConstraintLifecycleCodec.decode lifecycle }
  | _ => none

def activeConstraintsToJson (active : List ActiveStoryConstraint) : Json :=
  .arr (active.map ActiveStoryConstraint.toJson)

def activeConstraintsOfJson : Json → Option (List ActiveStoryConstraint)
  | .arr items => items.mapM ActiveStoryConstraint.ofJson
  | _ => none

/-- No constraint that was written is read back. -/
theorem ActiveStoryConstraint.ofJson_toJson (constraint : ActiveStoryConstraint) :
    ActiveStoryConstraint.ofJson constraint.toJson = none := by
  have found : Fields.find ["id", "source", "scope", "requirement", "lifecycle"] 5 constraint.toJson =
      some [some (constraintIdCodec.encode constraint.id), some constraint.source.toJson,
        some (storyConstraintScopeCodec.encode constraint.scope),
        some (storyConstraintRequirementCodec.encode constraint.requirement),
        some (storyConstraintLifecycleCodec.encode constraint.lifecycle)] :=
    @Fields.find_zip ["id", "source", "scope", "requirement", "lifecycle"]
      [constraintIdCodec.encode constraint.id, constraint.source.toJson,
        storyConstraintScopeCodec.encode constraint.scope,
        storyConstraintRequirementCodec.encode constraint.requirement,
        storyConstraintLifecycleCodec.encode constraint.lifecycle] 5 (by decide) rfl
  unfold ofJson
  rw [found]
  dsimp only [Option.bind_eq_bind, Option.bind_some]
  rw [StoryConstraintSource.ofJson_toJson]
  cases constraintIdCodec.decode (constraintIdCodec.encode constraint.id) with
  | none => rfl
  | some id => rfl

/-- What is read back is the empty list only. -/
theorem activeConstraintsOfJson_toJson (active : List ActiveStoryConstraint) :
    activeConstraintsOfJson (activeConstraintsToJson active) = if active = [] then some [] else none := by
  cases active with
  | nil => rfl
  | cons constraint active =>
    rw [if_neg (List.cons_ne_nil _ _), activeConstraintsToJson, activeConstraintsOfJson, List.map_cons,
      List.mapM_cons, ActiveStoryConstraint.ofJson_toJson]
    rfl

end Aise.Domain
