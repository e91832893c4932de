import Aise.Domain.Narrative.Bootstrap
import Aise.Domain.Narrative.Projector
import Aise.Domain.Narrative.Stored
import Aise.Lib.Label

/-! What becomes of the effects of a transition. They wait in the state of the narrative for the
next projection, which disposes of all that wait. -/
namespace Aise.Domain

/-! ### Effects and their identifiers -/

/-- An effect, by its place in the graph. -/
structure EffectOccurrence where
  node : AssetKey
  kind : NarrativeTransitionKind
  index : Nat
  definition : NarrativeEffectDefinition
  deriving DecidableEq

def NarrativeNodeEffects.on (effects : NarrativeNodeEffects) :
    NarrativeTransitionKind → List NarrativeEffectDefinition
  | .activate => effects.onActivate
  | .complete => effects.onComplete
  | .skip => []

namespace EffectOccurrence
variable (occurrence : EffectOccurrence)

/-- The graph has the effect at its place. -/
def From (definition : NarrativeGraphDefinition) : Prop :=
  ∃ node, definition.nodes[occurrence.node]? = some node ∧
    (node.effects.on occurrence.kind)[occurrence.index]? = some occurrence.definition

def id (revision : UInt64) : AssetKey :=
  narrativeEffectId occurrence.node occurrence.kind revision (UInt32.ofNat occurrence.index)

/-- The effect as it waits. -/
def effect (revision : UInt64) : PendingNarrativeEffect where
  effectId := occurrence.id revision
  sourceNode := occurrence.node
  sourceTransition := occurrence.kind
  sourceGraphRevision := revision
  effectIndex := UInt32.ofNat occurrence.index
  definition := occurrence.definition

def transition : ProposedNarrativeTransition := ⟨occurrence.node, occurrence.kind⟩

end EffectOccurrence

theorem narrativeTransitionKind_plain (kind : NarrativeTransitionKind) : Label.Plain kind.asStr := by
  cases kind with
  | activate => exact (by decide : Label.Plain "activate")
  | complete => exact (by decide : Label.Plain "complete")
  | skip => exact (by decide : Label.Plain "skip")

theorem narrativeTransitionKind_asStr_injective :
    Function.Injective NarrativeTransitionKind.asStr := by
  intro first second same
  cases first <;> cases second <;> simp_all [NarrativeTransitionKind.asStr]

theorem narrativeEffectId_asStr (node : AssetKey) (kind : NarrativeTransitionKind)
    (revision : UInt64) (index : UInt32) : (narrativeEffectId node kind revision index).asStr =
      "narrative-effect:" ++ node.asStr ++ ":" ++ kind.asStr ++ ":" ++
        Nat.repr revision.toNat ++ ":" ++ Nat.repr index.toNat := by
  unfold narrativeEffectId
  dsimp only [toString]
  simp only [String.append_assoc]

/-- The text of an identifier says which node, transition, revision and index it is made of. -/
theorem narrativeEffectId_inj {node other : AssetKey} {kind last : NarrativeTransitionKind}
    {revision later : UInt64} {index next : UInt32}
    (same : narrativeEffectId node kind revision index = narrativeEffectId other last later next) :
    node = other ∧ kind = last ∧ revision = later ∧ index = next := by
  have texts := congrArg AssetKey.asStr same
  rw [narrativeEffectId_asStr, narrativeEffectId_asStr] at texts
  obtain ⟨texts, indexes⟩ := Label.inj_repr texts
  obtain ⟨texts, revisions⟩ := Label.inj_repr texts
  obtain ⟨texts, kinds⟩ := Label.inj (narrativeTransitionKind_plain kind)
    (narrativeTransitionKind_plain last) texts
  refine ⟨AssetKey.asStr_injective (String.append_right_inj _ |>.mp texts),
    narrativeTransitionKind_asStr_injective kinds, UInt64.toNat_inj.mp revisions,
    UInt32.toNat_inj.mp indexes⟩

/-- Effects of a graph have the same identifier only if they are the same, as long as their indexes
fit. -/
theorem EffectOccurrence.eq_of_id_eq {definition : NarrativeGraphDefinition}
    {occurrence other : EffectOccurrence} {revision later : UInt64}
    (from' : occurrence.From definition) (fromToo : other.From definition)
    (fits : occurrence.index < UInt32.size) (fitsToo : other.index < UInt32.size)
    (same : occurrence.id revision = other.id later) : occurrence = other ∧ revision = later := by
  obtain ⟨nodes, kinds, revisions, indexes⟩ := narrativeEffectId_inj same
  have numbers := congrArg UInt32.toNat indexes
  rw [UInt32.toNat_ofNat_of_lt' fits, UInt32.toNat_ofNat_of_lt' fitsToo] at numbers
  obtain ⟨node, known, placed⟩ := from'
  obtain ⟨otherNode, knownToo, placedToo⟩ := fromToo
  rw [← nodes] at knownToo
  cases known.symm.trans knownToo
  rw [← kinds, ← numbers] at placedToo
  have definitions := Option.some.inj (placed.symm.trans placedToo)
  refine ⟨?_, revisions⟩
  cases occurrence
  cases other
  simp_all

/-- An index that does not fit is written as one that does, of an effect of the same transition. -/
theorem EffectOccurrence.From.wrapped {definition : NarrativeGraphDefinition}
    {occurrence : EffectOccurrence} (from' : occurrence.From definition) : ∃ other : EffectOccurrence,
      other.From definition ∧ other.node = occurrence.node ∧ other.kind = occurrence.kind ∧
        other.index = occurrence.index % UInt32.size ∧
        ∀ revision, other.id revision = occurrence.id revision := by
  obtain ⟨node, known, placed⟩ := from'
  obtain ⟨inside, _⟩ := List.getElem?_eq_some_iff.mp placed
  have before : occurrence.index % UInt32.size < (node.effects.on occurrence.kind).length :=
    (Nat.mod_le _ _).trans_lt inside
  refine ⟨⟨occurrence.node, occurrence.kind, occurrence.index % UInt32.size, _⟩,
    ⟨node, known, List.getElem?_eq_getElem before⟩, rfl, rfl, rfl, fun revision => ?_⟩
  have same : UInt32.ofNat (occurrence.index % UInt32.size) = UInt32.ofNat occurrence.index :=
    UInt32.ofNat_mod_size
  rw [EffectOccurrence.id, EffectOccurrence.id, same]

/-! ### What waits -/

/-- What waits are the effects of these occurrences, found under their identifiers. -/
structure NarrativeRuntimeState.Waits (state : NarrativeRuntimeState)
    (caused : EffectOccurrence → Prop) : Prop where
  only : ∀ (id : AssetKey) (effect : PendingNarrativeEffect), state.pendingEffects[id]? = some effect →
    ∃ occurrence, caused occurrence ∧ effect = occurrence.effect state.graphRevision ∧
      id = occurrence.id state.graphRevision
  all : ∀ occurrence, caused occurrence → occurrence.id state.graphRevision ∈ state.pendingEffects

/-! ### What a turn causes -/

/-- The effects of these transitions. -/
def CausedBy (definition : NarrativeGraphDefinition)
    (transitions : List ProposedNarrativeTransition) (occurrence : EffectOccurrence) : Prop :=
  occurrence.From definition ∧ occurrence.transition ∈ transitions

namespace NarrativeResolutionInput
variable {input : NarrativeResolutionInput} {limits : NarrativeLimits}
  {resolution : NarrativeResolution}

theorem transitionEffects_eq_ok {revision : UInt64} {transition : ProposedNarrativeTransition}
    {effects : List PendingNarrativeEffect}
    (ok : input.transitionEffects revision transition = .ok effects) :
    transition.nodeKey ∈ input.definition.nodes ∧ ∀ effect, effect ∈ effects ↔
      ∃ occurrence : EffectOccurrence, occurrence.From input.definition ∧
        occurrence.transition = transition ∧ effect = occurrence.effect revision := by
  obtain ⟨node, found, ok⟩ := Result.bind_eq_ok ok
  have known := node_eq_ok found
  have listed : effects = (node.effects.on transition.kind).zipIdx.map fun entry =>
      (⟨transition.nodeKey, transition.kind, entry.2, entry.1⟩ : EffectOccurrence).effect revision := by
    cases ok
    cases transition with
    | mk key kind => cases kind <;> rfl
  refine ⟨OrdMap.mem_iff_exists.mpr ⟨node, known⟩, fun effect => ?_⟩
  rw [listed, List.mem_map]
  constructor
  · rintro ⟨⟨definition, index⟩, member, rfl⟩
    exact ⟨_, ⟨node, known, List.mem_zipIdx_iff_getElem?.mp member⟩, rfl, rfl⟩
  · rintro ⟨⟨_, _, index, definition⟩, ⟨other, same, placed⟩, rfl, rfl⟩
    cases known.symm.trans same
    exact ⟨(definition, index), List.mem_zipIdx_iff_getElem?.mpr placed, rfl⟩

/-- What `resolve` owes to the three loops. -/
structure Resolved (input : NarrativeResolutionInput) (limits : NarrativeLimits)
    (resolution : NarrativeResolution) : Prop where
  proposed : ∃ resolver, input.proposeTransitions limits = .ok resolver ∧
    resolver.transitions = resolution.transitions
  known : ∀ transition ∈ resolution.transitions, transition.nodeKey ∈ input.definition.nodes
  pending : ∀ effect, effect ∈ resolution.pendingEffects ↔ ∃ occurrence,
    CausedBy input.definition resolution.transitions occurrence ∧
      effect = occurrence.effect (input.state.graphRevision + 1)
  revision : resolution.nextGraphRevision = input.state.graphRevision + 1

theorem resolve_eq_ok (ok : input.resolve limits = .ok resolution) :
    input.Resolved limits resolution := by
  unfold resolve at ok
  split at ok
  · cases ok
  · obtain ⟨resolver, proposed, ok⟩ := Result.bind_eq_ok ok
    split at ok
    · cases ok
    · obtain ⟨effects, made, ok⟩ := Result.bind_eq_ok ok
      split at ok
      · cases ok
      · cases ok
        have each := Result.mapM_eq_ok made
        refine ⟨⟨resolver, proposed, rfl⟩, fun transition member => ?_, fun effect => ?_, rfl⟩
        · obtain ⟨_, _, here⟩ := Result.exists_of_forall₂ each.flip member
          exact (transitionEffects_eq_ok here).1
        · rw [List.mem_flatten]
          constructor
          · rintro ⟨listed, among, member⟩
            obtain ⟨transition, proposes, here⟩ := Result.exists_of_forall₂ each among
            obtain ⟨occurrence, from', rfl, same⟩ := ((transitionEffects_eq_ok here).2 effect).mp member
            exact ⟨occurrence, ⟨from', proposes⟩, same⟩
          · rintro ⟨occurrence, ⟨from', proposes⟩, rfl⟩
            obtain ⟨listed, among, here⟩ := Result.exists_of_forall₂ each.flip proposes
            exact ⟨listed, among, ((transitionEffects_eq_ok here).2 _).mpr ⟨occurrence, from', rfl, rfl⟩⟩

end NarrativeResolutionInput

/-! ### What a projection disposes of -/

/-- The event that the effect becomes, if it does not come too late. -/
def worldEventOf (currentTurn : UInt64) (entry : AssetKey × PendingNarrativeEffect) :
    Option WorldEventIntent :=
  if entry.2.expiresAfterTurn.any (· < currentTurn) then none
  else match entry.2.definition with
  | .worldEvent eventKey category participants location description =>
    some ⟨entry.1, entry.2.sourceNode, eventKey, category, participants, location, description⟩
  | .characterImpulse .. => none

/-- The event that the effect becomes. -/
def EffectOccurrence.worldEvent (occurrence : EffectOccurrence) (revision : UInt64) :
    Option WorldEventIntent :=
  match occurrence.definition with
  | .worldEvent eventKey category participants location description =>
    some ⟨occurrence.id revision, occurrence.node, eventKey, category, participants, location,
      description⟩
  | .characterImpulse .. => none

/-- No effect of a transition comes too late. -/
theorem worldEventOf_effect {occurrence : EffectOccurrence} {revision currentTurn : UInt64} :
    worldEventOf currentTurn (occurrence.id revision, occurrence.effect revision) =
      occurrence.worldEvent revision := rfl

theorem worldEventOf_effectId {currentTurn : UInt64} {entry : AssetKey × PendingNarrativeEffect}
    {intent : WorldEventIntent} (told : worldEventOf currentTurn entry = some intent) :
    intent.effectId = entry.1 := by
  unfold worldEventOf at told
  split at told
  · cases told
  · split at told
    · cases told
      rfl
    · cases told

/-- The events that are told for an effect, among those of all that waits. -/
theorem filter_worldEvents (pending : BTreeMap AssetKey PendingNarrativeEffect)
    (currentTurn : UInt64) (id : AssetKey) :
    (pending.toList.filterMap (worldEventOf currentTurn)).filter (·.effectId = id) =
      (pending[id]?.bind fun effect => worldEventOf currentTurn (id, effect)).toList := by
  have same : (pending.toList.filterMap (worldEventOf currentTurn)).filter (·.effectId = id) =
      (pending.toList.filter (·.1 = id)).filterMap (worldEventOf currentTurn) := by
    rw [List.filter_filterMap, List.filterMap_filter]
    refine List.filterMap_congr fun entry _ => ?_
    cases told : worldEventOf currentTurn entry with
    | none => simp
    | some intent => simp [Option.filter, worldEventOf_effectId told]
  rw [same, OrdMap.filter_toList]
  cases pending[id]? with
  | none => rfl
  | some effect =>
    cases told : worldEventOf currentTurn (id, effect) with
    | none => simp [told]
    | some intent => simp [told]

namespace NarrativeProjectionInput
variable {input : NarrativeProjectionInput} {limits : NarrativeProjectionLimits}

theorem projectEffect_eq_ok {plan next : ProjectedNarrativePlan}
    {entry : AssetKey × PendingNarrativeEffect} (ok : input.projectEffect plan entry = .ok next) :
    next.effectDispositions.map (·.effectId) = plan.effectDispositions.map (·.effectId) ++ [entry.1] ∧
      next.worldEventIntents =
        plan.worldEventIntents ++ (worldEventOf input.currentTurn entry).toList := by
  obtain ⟨id, pending⟩ := entry
  unfold projectEffect at ok
  unfold worldEventOf
  dsimp only at ok ⊢
  split at ok
  · rename_i expired
    cases ok
    simp [expired, NarrativeEffectDisposition.effectId]
  · rename_i lasting
    rw [if_neg lasting]
    cases defined : pending.definition with
    | worldEvent eventKey category participants location description =>
      rw [defined] at ok
      cases ok
      simp [NarrativeEffectDisposition.effectId]
    | characterImpulse target goal reason emotion urgency turns =>
      rw [defined] at ok
      obtain ⟨controller, _, ok⟩ := Result.bind_eq_ok ok
      split at ok
      · cases ok
        simp [NarrativeEffectDisposition.effectId]
      · cases ok
        simp [NarrativeEffectDisposition.effectId]

theorem foldEffects_eq_ok {entries : List (AssetKey × PendingNarrativeEffect)}
    {plan last : ProjectedNarrativePlan} (ok : entries.foldlM input.projectEffect plan = .ok last) :
    last.effectDispositions.map (·.effectId) =
        plan.effectDispositions.map (·.effectId) ++ entries.map Prod.fst ∧
      last.worldEventIntents =
        plan.worldEventIntents ++ entries.filterMap (worldEventOf input.currentTurn) := by
  induction entries generalizing plan with
  | nil =>
    cases ok
    simp
  | cons entry entries ih =>
    obtain ⟨next, first, ok⟩ := Result.bind_eq_ok ok
    obtain ⟨disposed, told⟩ := projectEffect_eq_ok first
    obtain ⟨later, toldLater⟩ := ih ok
    rw [later, toldLater, disposed, told]
    cases tells : worldEventOf input.currentTurn entry with
    | none => simp [tells]
    | some intent => simp [tells]

/-- All that waits is disposed of, in the order of the identifiers. -/
theorem project_eq_ok {projection : NarrativeProjection}
    (ok : input.project limits = .ok projection) :
    projection.plan.effectDispositions.map (·.effectId) = input.state.pendingEffects.keys ∧
      projection.plan.worldEventIntents =
        input.state.pendingEffects.toList.filterMap (worldEventOf input.currentTurn) := by
  obtain ⟨queries, _, ok⟩ := Result.bind_eq_ok ok
  obtain ⟨plan, projected, ok⟩ := Result.bind_eq_ok ok
  cases ok
  obtain ⟨disposed, told⟩ := foldEffects_eq_ok projected
  refine ⟨?_, by simpa using told⟩
  rw [← Std.ExtTreeMap.map_fst_toList_eq_keys]
  simpa using disposed

end NarrativeProjectionInput

/-! ### What waits at the start -/

section
variable {definition : NarrativeGraphDefinition} {state next : NarrativeRuntimeState}

/-- Effects that are inserted under their own identifiers wait for the occurrences they are of. -/
theorem waits_insertAll (effects : List PendingNarrativeEffect) (revision : UInt64)
    (caused before : EffectOccurrence → Prop) (pending : BTreeMap AssetKey PendingNarrativeEffect)
    (made : ∀ effect, effect ∈ effects ↔ ∃ occurrence, caused occurrence ∧
      effect = occurrence.effect revision)
    (only : ∀ (id : AssetKey) (effect : PendingNarrativeEffect), pending[id]? = some effect →
      ∃ occurrence, before occurrence ∧ effect = occurrence.effect revision ∧
        id = occurrence.id revision)
    (all : ∀ occurrence, before occurrence → occurrence.id revision ∈ pending) :
    (∀ (id : AssetKey) (effect : PendingNarrativeEffect),
      (effects.foldl (fun pending effect => pending.insert effect.effectId effect) pending)[id]? =
        some effect → ∃ occurrence, (before occurrence ∨ caused occurrence) ∧
          effect = occurrence.effect revision ∧ id = occurrence.id revision) ∧
    ∀ occurrence, (before occurrence ∨ caused occurrence) → occurrence.id revision ∈
      effects.foldl (fun pending effect => pending.insert effect.effectId effect) pending := by
  constructor
  · intro id effect found
    rcases OrdMap.get_insertAll PendingNarrativeEffect.effectId effects found with
      ⟨member, here⟩ | ⟨_, stored⟩
    · obtain ⟨occurrence, causes, rfl⟩ := (made effect).mp member
      exact ⟨occurrence, .inr causes, rfl, here.symm⟩
    · obtain ⟨occurrence, earlier, same⟩ := only id effect stored
      exact ⟨occurrence, .inl earlier, same⟩
  · intro occurrence among
    rw [OrdMap.mem_insertAll PendingNarrativeEffect.effectId]
    rcases among with earlier | causes
    · exact .inr (all occurrence earlier)
    · exact .inl (List.mem_map.mpr ⟨_, (made _).mpr ⟨occurrence, causes, rfl⟩, rfl⟩)

/-- The state knows nodes of the graph only. -/
structure NarrativeRuntimeState.Known (definition : NarrativeGraphDefinition)
    (state : NarrativeRuntimeState) : Prop where
  nodes : ∀ key ∈ state.nodeStates, key ∈ definition.nodes
  turns : ∀ key ∈ state.activationTurns, key ∈ definition.nodes

/-- The effects of the nodes that are active, as those of a new story. -/
def CausedAtStart (definition : NarrativeGraphDefinition) (state : NarrativeRuntimeState)
    (occurrence : EffectOccurrence) : Prop :=
  occurrence.From definition ∧ occurrence.kind = .activate ∧
    state.nodeState occurrence.node = .active

/-- A new story has active nodes only, and the effects of their activation wait. -/
structure NarrativeRuntimeState.Begun (definition : NarrativeGraphDefinition)
    (state : NarrativeRuntimeState) : Prop where
  known : state.Known definition
  active : ∀ (key : AssetKey) (node : NarrativeNodeState), state.nodeStates[key]? = some node →
    node = .active
  revision : state.graphRevision.toNat ≤ 1
  waits : state.Waits (CausedAtStart definition state)

theorem enterNode_begun {nodeKey : AssetKey} (begun : state.Begun definition)
    (first : state.graphRevision = 1) (ok : enterNode definition state nodeKey = .ok next) :
    next.Begun definition ∧ next.graphRevision = 1 := by
  obtain ⟨node, found, ok⟩ := Result.bind_eq_ok ok
  have here := Result.okOr_eq_ok.mp found
  cases ok
  have entered : ∀ key, NarrativeRuntimeState.nodeState
      { state with nodeStates := state.nodeStates.insert nodeKey .active } key = .active ↔
        key = nodeKey ∨ state.nodeState key = .active := by
    intro key
    unfold NarrativeRuntimeState.nodeState
    rw [OrdMap.get_insert]
    split
    · rename_i same
      simp [same]
    · rename_i other
      simp [Ne.symm other]
  obtain ⟨only, all⟩ := waits_insertAll
    (node.effects.onActivate.zipIdx.map (bootstrapEffect nodeKey)) 1
    (fun occurrence => occurrence.From definition ∧ occurrence.kind = .activate ∧
      occurrence.node = nodeKey)
    (CausedAtStart definition state) state.pendingEffects (by
      intro effect
      rw [List.mem_map]
      constructor
      · rintro ⟨⟨defined, index⟩, member, rfl⟩
        exact ⟨⟨nodeKey, .activate, index, defined⟩,
          ⟨⟨node, here, List.mem_zipIdx_iff_getElem?.mp member⟩, rfl, rfl⟩, rfl⟩
      · rintro ⟨⟨_, _, index, defined⟩, ⟨⟨other, same, placed⟩, rfl, rfl⟩, rfl⟩
        cases here.symm.trans same
        exact ⟨(defined, index), List.mem_zipIdx_iff_getElem?.mpr placed, rfl⟩)
    (first ▸ begun.waits.only) (first ▸ begun.waits.all)
  have causes : ∀ occurrence : EffectOccurrence, CausedAtStart definition state occurrence ∨
      (occurrence.From definition ∧ occurrence.kind = .activate ∧ occurrence.node = nodeKey) ↔
      occurrence.From definition ∧ occurrence.kind = .activate ∧
        (occurrence.node = nodeKey ∨ state.nodeState occurrence.node = .active) := by
    intro occurrence
    unfold CausedAtStart
    tauto
  refine ⟨⟨⟨fun key member => ?_, begun.known.turns⟩, fun key other stored => ?_, begun.revision, ?_, ?_⟩,
    first⟩
  · rcases Std.ExtTreeMap.mem_insert.mp member with same | before
    · rw [compare_eq_iff_eq] at same
      exact same ▸ OrdMap.mem_iff_exists.mpr ⟨node, here⟩
    · exact begun.known.nodes key before
  · rw [OrdMap.get_insert] at stored
    split at stored
    · exact (Option.some.inj stored).symm
    · exact begun.active key other stored
  · intro id effect found
    obtain ⟨occurrence, among, same⟩ := only id effect found
    have caused := (causes occurrence).mp among
    refine ⟨occurrence, ⟨caused.1, caused.2.1, (entered _).mpr caused.2.2⟩, ?_⟩
    dsimp only
    rw [first]
    exact same
  · rintro occurrence ⟨from', kind, active⟩
    have member := all occurrence ((causes occurrence).mpr ⟨from', kind, (entered _).mp active⟩)
    dsimp only
    rw [first]
    exact member

theorem bootstrap_begun {view : NarrativeStateView} {limits : NarrativeLimits}
    (ok : bootstrapNarrativeState definition view limits = .ok state) : state.Begun definition := by
  have empty : ∀ revision : UInt64, revision.toNat ≤ 1 →
      NarrativeRuntimeState.Begun definition { graphRevision := revision } := by
    intro revision bound
    refine ⟨⟨fun key member => ?_, fun key member => ?_⟩, fun key node stored => ?_, bound, ?_, ?_⟩
    · exact absurd member Std.ExtTreeMap.not_mem_empty
    · exact absurd member Std.ExtTreeMap.not_mem_empty
    · rw [Std.ExtTreeMap.getElem?_empty] at stored
      cases stored
    · intro id effect found
      rw [Std.ExtTreeMap.getElem?_empty] at found
      cases found
    · rintro occurrence ⟨_, _, active⟩
      rw [NarrativeRuntimeState.nodeState, Std.ExtTreeMap.getElem?_empty] at active
      cases active
  obtain ⟨activated, _, ok⟩ := Result.bind_eq_ok ok
  split at ok
  · cases ok
    exact empty 0 (by decide)
  · exact (Result.foldlM_invariant
      (P := fun state => NarrativeRuntimeState.Begun definition state ∧ state.graphRevision = 1)
      (fun held entered => enterNode_begun held.1 held.2 entered) ok
      ⟨empty 1 (by decide), rfl⟩).1

end

/-! ### What waits can be stored -/

theorem narrativeEffectId_visible (node : AssetKey) (kind : NarrativeTransitionKind)
    (revision : UInt64) (index : UInt32) :
    RustText.isBlank (narrativeEffectId node kind revision index).asStr = false := by
  refine RustText.not_blank_of_mem (c := 'n') ?_ (by decide)
  rw [narrativeEffectId_asStr]
  simp only [String.toList_append, List.mem_append]
  exact .inl (.inl (.inl (.inl (.inl (.inl (.inl (by decide)))))))

/-- A state that knows nodes of the graph only, and in which effects of the graph wait. -/
theorem storable_of_waits {definition : NarrativeGraphDefinition} {state : NarrativeRuntimeState}
    {caused : EffectOccurrence → Prop} (storable : definition.Storable)
    (known : state.Known definition) (waits : state.Waits caused)
    (from' : ∀ occurrence, caused occurrence → occurrence.From definition) : state.Storable where
  nodes entry member := storable.keyed entry.1 (known.nodes entry.1 (by
    rw [← Std.ExtTreeMap.mem_keys, ← Std.ExtTreeMap.map_fst_toList_eq_keys]
    exact List.mem_map_of_mem member))
  turns entry member := storable.keyed entry.1 (known.turns entry.1 (by
    rw [← Std.ExtTreeMap.mem_keys, ← Std.ExtTreeMap.map_fst_toList_eq_keys]
    exact List.mem_map_of_mem member))
  identified entry member := by
    obtain ⟨occurrence, _, _, same⟩ :=
      waits.only entry.1 entry.2 (Std.ExtTreeMap.mem_toList_iff_getElem?_eq_some.mp member)
    rw [same]
    exact narrativeEffectId_visible _ _ _ _
  effects entry member := by
    obtain ⟨occurrence, caused, same, _⟩ :=
      waits.only entry.1 entry.2 (Std.ExtTreeMap.mem_toList_iff_getElem?_eq_some.mp member)
    obtain ⟨node, found, placed⟩ := from' occurrence caused
    rw [same]
    have listed : occurrence.definition ∈ node.effects.onActivate ++ node.effects.onComplete := by
      have member := List.mem_of_getElem? placed
      rw [List.mem_append]
      cases kind : occurrence.kind with
      | activate => exact .inl (by simpa [kind, NarrativeNodeEffects.on] using member)
      | complete => exact .inr (by simpa [kind, NarrativeNodeEffects.on] using member)
      | skip => simp [kind, NarrativeNodeEffects.on] at member
    exact {
      identified := narrativeEffectId_visible _ _ _ _
      sourced := storable.keyed _ (OrdMap.mem_iff_exists.mpr ⟨node, found⟩)
      defined := storable.effects _ node found _ listed }

end Aise.Domain
