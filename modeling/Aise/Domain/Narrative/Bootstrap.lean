import Aise.Lib.Serde
import Aise.Story.ReadSnapshot

/-! The state that the narrative of a new story is in. -/
namespace Aise.Domain

def NarrativeGraphDefinition.node (definition : NarrativeGraphDefinition) (key : AssetKey) :
    Except NarrativeError NarrativeNodeDefinition :=
  Result.okOr definition.nodes[key]? (.missingReference key.asStr)

section
variable (roles : BTreeMap RoleId StoryRole) (relationships : List RelationshipState)

def newRole (roleId : RoleId) : Except UnknownRole StoryRole :=
  Result.okOr roles[roleId]? ⟨roleId.value⟩

/-- `BootstrapNarrativeStateView`. -/
def bootstrapView : NarrativeStateView where
  factValue _ := .ok none
  roleAttribute roleId name := do
    let role ← newRole roles roleId
    return role.state.attribute name
  relationshipTrust source target := do
    let _ ← newRole roles source
    let _ ← newRole roles target
    return StorySnapshot.trustBetween relationships source target
  roleController roleId := do
    let role ← newRole roles roleId
    return role.controller.kind

end

section
variable (definition : NarrativeGraphDefinition) (view : NarrativeStateView) (limits : NarrativeLimits)

def bootstrapContext : ConditionEvalContext where
  state := {}
  view
  semanticResults := ∅
  currentTurn := 0
  limits

/-- The loop over the entry nodes. -/
def considerEntry (activated : List AssetKey) (entry : AssetKey) :
    Except NarrativeError (List AssetKey) := do
  let node ← definition.node entry
  if (← evaluateCondition (bootstrapContext view limits) node.activateWhen 0) = .satisfied then
    return activated ++ [entry]
  else return activated

def bootstrapEffect (nodeKey : AssetKey) (effect : NarrativeEffectDefinition × Nat) :
    PendingNarrativeEffect where
  effectId := narrativeEffectId nodeKey .activate 1 (UInt32.ofNat effect.2)
  sourceNode := nodeKey
  sourceTransition := .activate
  sourceGraphRevision := 1
  effectIndex := UInt32.ofNat effect.2
  definition := effect.1

/-- The loop over the nodes that are active from the start. -/
def enterNode (state : NarrativeRuntimeState) (nodeKey : AssetKey) :
    Except NarrativeError NarrativeRuntimeState := do
  let node ← definition.node nodeKey
  let effects := node.effects.onActivate.zipIdx.map (bootstrapEffect nodeKey)
  return { state with
    nodeStates := state.nodeStates.insert nodeKey .active
    pendingEffects := effects.foldl (fun pending effect => pending.insert effect.effectId effect)
      state.pendingEffects }

/-- `bootstrap_narrative_state`. -/
def bootstrapNarrativeState : Except NarrativeError NarrativeRuntimeState := do
  let activated ← definition.entryNodes.foldlM (considerEntry definition view limits) []
  if activated = [] then return {}
  else activated.foldlM (enterNode definition) { graphRevision := 1 }

end

end Aise.Domain
