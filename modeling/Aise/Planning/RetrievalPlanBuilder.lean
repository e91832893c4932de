import Aise.Context.Baseline
import Aise.Domain.Asset.Keys

/-! The plan of the writer: what the planner asked for, checked against the story, together with the
roles that the narrative wants to think. -/
namespace Aise.Domain
open RustText

structure PlannerConfig where
  maxContextGaps : Nat := 8
  maxCharacterThinkRequests : Nat := 8
  maxGoalBytes : Nat := 512
  maxReasonBytes : Nat := 256
  deriving DecidableEq

/-! ### What the planner is shown, and what it answers -/

inductive IndexedRetrievalTarget where
  | role (roleId : RoleId)
  | knowledge (sourceId : KnowledgeSourceId)
  deriving DecidableEq

abbrev IndexedTargets := BTreeMap String IndexedRetrievalTarget

inductive WriterPlannerProjectionError where
  | retrievalTargetCollision (key : String)
  | requiredPromptDataExceedsBudget
  deriving DecidableEq

def insertTarget (targets : IndexedTargets) (key : String) (target : IndexedRetrievalTarget) :
    Except WriterPlannerProjectionError IndexedTargets :=
  if targets[key]?.any (· ≠ target) then .error (.retrievalTargetCollision key)
  else .ok (targets.insert key target)

/-- The targets that can be asked for: the roles and the knowledge of the indexes. -/
def indexTargets (baseline : BaselineContext) :
    Except WriterPlannerProjectionError IndexedTargets := do
  let targets ← baseline.roleIndex.foldlM
    (fun targets entry => insertTarget targets entry.roleId.value (.role entry.roleId)) ∅
  baseline.knowledgeIndex.foldlM
    (fun targets entry => insertTarget targets entry.sourceId.asStr (.knowledge entry.sourceId)) targets

structure WriterPlannerPromptContext where
  indexedTargets : IndexedTargets

/-- `WriterPlannerPromptContextProjector::project`, with the tokens of what it renders. -/
def WriterPlannerPromptContext.project (baseline : BaselineContext)
    (inputTokens maxInputTokens : UInt64) :
    Except WriterPlannerProjectionError WriterPlannerPromptContext := do
  let indexedTargets ← indexTargets baseline
  Result.failIf (inputTokens > maxInputTokens) .requiredPromptDataExceedsBudget
  return { indexedTargets }

structure PlannerWriterContextGapDto where
  targetId : String
  reason : String
  deriving DecidableEq

structure PlannerCharacterContextGapDto where
  roleId : String
  targetId : String
  reason : String
  deriving DecidableEq

structure CharacterThinkRequestDto where
  roleId : String
  reason : String
  deriving DecidableEq

structure WriterPlannerOutputDto where
  storyGoal : String
  writerContextGaps : List PlannerWriterContextGapDto := []
  characterContextGaps : List PlannerCharacterContextGapDto := []
  characterThinkRequests : List CharacterThinkRequestDto := []
  deriving DecidableEq

inductive PlanningError where
  | invalidOutput (code : String)
  | unknownRole | playerRoleRequested | duplicateRoleTarget | unknownRetrievalKey
  | knowledgeAudienceViolation
  | limitExceeded (limit : String)
  deriving DecidableEq

/-! ### Requests -/

def RetrievalRequestOrigin.rank : RetrievalRequestOrigin → Nat
  | automatic => 0
  | narrative => 1
  | planner => 2

/-- `RetrievalRequestKey`, ordered by the delivery first. -/
abbrev RetrievalRequestKey := KnowledgeDelivery ×ₗ KnowledgeSourceId

instance : Std.LawfulEqOrd RetrievalRequestKey := ⟨compare_eq_iff_eq.mp⟩

def canonicalKey (request : KnowledgeRetrievalRequest) : RetrievalRequestKey :=
  toLex (request.delivery, request.targetSourceId)

def KnowledgeRetrievalRequest.order (request : KnowledgeRetrievalRequest) :
    Nat ×ₗ Nat ×ₗ RetrievalRequestKey :=
  toLex (if request.mandatory then 0 else 1, toLex (request.origin.rank, canonicalKey request))

/-- Whether a request takes the place of another one for the same target. -/
def KnowledgeRetrievalRequest.replaces (request existing : KnowledgeRetrievalRequest) : Bool :=
  request.mandatory && !existing.mandatory ||
    request.mandatory == existing.mandatory && request.origin.rank < existing.origin.rank

def dedupeAndSort (requests : List KnowledgeRetrievalRequest) : List KnowledgeRetrievalRequest :=
  let byKey := requests.foldl (fun (byKey : BTreeMap RetrievalRequestKey _) request =>
    if byKey[canonicalKey request]?.all request.replaces then
      byKey.insert (canonicalKey request) request
    else byKey) ∅
  Sorting.sort (·.order) (valuesOf byKey)

def knownRole (baseline : BaselineContext) (roleId : RoleId) : Bool :=
  baseline.playerRole.roleId = roleId || baseline.relevantRoles.any (·.roleId = roleId) ||
    baseline.roleIndex.any (·.roleId = roleId)

inductive GapOutcome where
  | roleCognition (roleId : RoleId) (reason : BoundedText)
  | knowledge (request : KnowledgeRetrievalRequest)
  deriving DecidableEq

/-- The roles whose cognition is retrieved, with the reason and the origin of the request. -/
abbrev BaseCognition := BTreeMap RoleId (BoundedText × RetrievalRequestOrigin)

namespace PlannerConfig
variable (planner : PlannerConfig)

def boundedReason (reason : String) : Except PlanningError BoundedText :=
  (BoundedText.tryNew reason "reason" planner.maxReasonBytes).mapError fun _ =>
    .limitExceeded "max_reason_bytes"

/-- The reason of a context gap. -/
def gapReason (reason : String) : Except PlanningError BoundedText := do
  Result.failIf (isBlank reason = true) (.invalidOutput "context_gap_reason_empty")
  planner.boundedReason reason

def convertThinkRequest (dto : CharacterThinkRequestDto) :
    Except PlanningError CharacterThinkRequest := do
  let roleId ← Result.okOr (RoleId.tryNew dto.roleId) .unknownRole
  Result.failIf (isBlank dto.reason = true) (.invalidOutput "character_think_reason_empty")
  let reason ← planner.boundedReason dto.reason
  return { roleId, reason }

def convertThinkRequests (requests : List CharacterThinkRequestDto) :
    Except PlanningError (List CharacterThinkRequest) :=
  requests.mapM planner.convertThinkRequest

def makeRequest (delivery : KnowledgeDelivery) (targetSourceId : KnowledgeSourceId)
    (reason : BoundedText) (origin : RetrievalRequestOrigin) (mandatory : Bool) :
    Except PlanningError KnowledgeRetrievalRequest := do
  let reason ← planner.boundedReason reason.value
  return { delivery, targetSourceId, reason, origin, mandatory }

def resolveWriterGap (context : WriterPlannerPromptContext) (gap : PlannerWriterContextGapDto) :
    Except PlanningError GapOutcome := do
  let reason ← planner.gapReason gap.reason
  match context.indexedTargets[gap.targetId]? with
  | none => .error .unknownRetrievalKey
  | some (.role roleId) => .ok (.roleCognition roleId reason)
  | some (.knowledge sourceId) =>
    return .knowledge (← planner.makeRequest .writer sourceId reason .planner false)

def resolveCharacterGap (thinkRequests : List CharacterThinkRequest)
    (context : WriterPlannerPromptContext) (gap : PlannerCharacterContextGapDto) :
    Except PlanningError KnowledgeRetrievalRequest := do
  let reason ← planner.gapReason gap.reason
  let roleId ← Result.okOr (RoleId.tryNew gap.roleId) .unknownRole
  Result.failIf (roleId ∉ thinkRequests.map (·.roleId)) .knowledgeAudienceViolation
  match context.indexedTargets[gap.targetId]? with
  | none => .error .unknownRetrievalKey
  | some (.role _) => .error .knowledgeAudienceViolation
  | some (.knowledge sourceId) =>
    Result.failIf (sourceId.kind = .fact) .knowledgeAudienceViolation
    planner.makeRequest (.character roleId) sourceId reason .planner false

end PlannerConfig

/-- The loop of `validate_think_requests`, with the roles seen so far. -/
def validateThinkFrom (snapshot : StoryReadSnapshot) :
    (seen : List RoleId) → List CharacterThinkRequest →
      Except PlanningError (List CharacterThinkRequest)
  | _, [] => .ok []
  | seen, request :: rest => do
    Result.failIf (request.roleId = snapshot.playerRoleId) .playerRoleRequested
    let role ← Result.okOr (snapshot.role request.roleId) .unknownRole
    Result.failIf (role.controller ≠ .ai) .unknownRole
    Result.failIf (request.roleId ∈ seen) .duplicateRoleTarget
    return request :: (← validateThinkFrom snapshot (request.roleId :: seen) rest)

def validateThinkRequests (requests : List CharacterThinkRequest) (snapshot : StoryReadSnapshot) :
    Except PlanningError (List CharacterThinkRequest) :=
  validateThinkFrom snapshot [] requests

/-- The reason for an impulse: the one it is given, unless that is blank, else its goal. -/
def CharacterImpulse.reasonText (impulse : CharacterImpulse) : String :=
  ((impulse.reason.map (·.value)).filter fun reason => !isBlank reason).getD impulse.goal.value

/-- The loop of `merge_narrative_think_requests`. -/
def addImpulse (seen : List RoleId) (baseline : BaselineContext) (planner : PlannerConfig)
    (additions : BTreeMap RoleId BoundedText) (impulse : CharacterImpulse) :
    Except PlanningError (BTreeMap RoleId BoundedText) :=
  if impulse.targetRoleId ∈ seen ∨ impulse.targetRoleId ∈ additions then .ok additions
  else do
    Result.failIf (impulse.targetRoleId = baseline.playerRole.roleId) .playerRoleRequested
    Result.failIf (knownRole baseline impulse.targetRoleId = false) .unknownRole
    let reason ← planner.boundedReason impulse.reasonText
    return additions.insert impulse.targetRoleId reason

def mergeNarrativeThinkRequests (plannerRequests : List CharacterThinkRequest)
    (impulses : List CharacterImpulse) (baseline : BaselineContext) (planner : PlannerConfig) :
    Except PlanningError (List CharacterThinkRequest) := do
  let additions ← impulses.foldlM
    (addImpulse (plannerRequests.map (·.roleId)) baseline planner) ∅
  let merged := plannerRequests ++ additions.toList.map fun addition => ⟨addition.1, addition.2⟩
  Result.failIf (merged.length > planner.maxCharacterThinkRequests)
    (.limitExceeded "max_character_think_requests")
  return merged

structure RetrievalPlanBuilder where
  retrieval : RetrievalConfig := {}
  planner : PlannerConfig := {}
  deriving DecidableEq

namespace RetrievalPlanBuilder
variable (builder : RetrievalPlanBuilder)

/-- The loop over the gaps of the writer. -/
def addWriterGap (context : WriterPlannerPromptContext)
    (found : BaseCognition × List KnowledgeRetrievalRequest) (gap : PlannerWriterContextGapDto) :
    Except PlanningError (BaseCognition × List KnowledgeRetrievalRequest) := do
  match ← builder.planner.resolveWriterGap context gap with
  | .roleCognition roleId reason => return (found.1.insertIfNew roleId (reason, .planner), found.2)
  | .knowledge request => return (found.1, found.2 ++ [request])

/-- The requests for roles, in their order. -/
def characterRequestsOf (cognition : BaseCognition) : List CharacterRetrievalRequest :=
  Sorting.sort (·.roleId) (cognition.toList.map fun (roleId, reason, origin) =>
    { roleId, reason, origin })

/-- The think requests of a plan. -/
def thinkRequests (baseline : BaselineContext) (narrativePlan : NarrativePlan)
    (plannerOutput : WriterPlannerOutputDto) (snapshot : StoryReadSnapshot) :
    Except PlanningError (List CharacterThinkRequest) := do
  let converted ← builder.planner.convertThinkRequests plannerOutput.characterThinkRequests
  let validated ← validateThinkRequests converted snapshot
  mergeNarrativeThinkRequests validated narrativePlan.characterImpulses baseline builder.planner

/-- The requests for roles and for knowledge of a plan. -/
def retrievalPlan (thinkRequests : List CharacterThinkRequest)
    (plannerOutput : WriterPlannerOutputDto) (context : WriterPlannerPromptContext) :
    Except PlanningError RetrievalPlan := do
  let (cognition, knowledge) ← plannerOutput.writerContextGaps.foldlM (builder.addWriterGap context)
    (∅, [])
  let character ← plannerOutput.characterContextGaps.mapM
    (builder.planner.resolveCharacterGap thinkRequests context)
  let cognition := thinkRequests.foldl (fun cognition request =>
    cognition.insertIfNew request.roleId (request.reason, .automatic)) cognition
  let knowledgeRequests := dedupeAndSort (knowledge ++ character)
  Result.failIf (knowledgeRequests.length > builder.retrieval.maxRequests)
    (.limitExceeded "max_requests")
  return { characterRequests := characterRequestsOf cognition, knowledgeRequests }

def build (baseline : BaselineContext) (narrativePlan : NarrativePlan)
    (plannerOutput : WriterPlannerOutputDto) (snapshot : StoryReadSnapshot)
    (context : WriterPlannerPromptContext) : Except PlanningError WriterPlan := do
  Result.failIf (plannerOutput.writerContextGaps.length + plannerOutput.characterContextGaps.length >
    builder.planner.maxContextGaps) (.limitExceeded "max_context_gaps")
  Result.failIf (plannerOutput.characterThinkRequests.length >
    builder.planner.maxCharacterThinkRequests) (.limitExceeded "max_character_think_requests")
  Result.failIf (isBlank plannerOutput.storyGoal = true) (.invalidOutput "story_goal_empty")
  let storyGoal ← (BoundedText.tryNew plannerOutput.storyGoal "story_goal"
    builder.planner.maxGoalBytes).mapError fun _ => .limitExceeded "max_goal_bytes"
  let thinkRequests ← builder.thinkRequests baseline narrativePlan plannerOutput snapshot
  let retrievalPlan ← builder.retrievalPlan thinkRequests plannerOutput context
  return { storyGoal, retrievalPlan, characterThinkRequests := thinkRequests }

end RetrievalPlanBuilder

/-! ### The targets of the planner -/

theorem insertTarget_eq_ok {targets next : IndexedTargets} {key : String}
    {target : IndexedRetrievalTarget} (ok : insertTarget targets key target = .ok next)
    (other : String) (found : IndexedRetrievalTarget) :
    next[other]? = some found ↔ targets[other]? = some found ∨ (key = other ∧ target = found) := by
  unfold insertTarget at ok
  split at ok
  · cases ok
  · rename_i agreed
    cases ok
    rw [OrdMap.get_insert]
    by_cases same : key = other
    · subst same
      cases known : targets[key]? with
      | none => simp
      | some existing =>
        rw [known] at agreed
        have equal : existing = target := by simpa using agreed
        simp [equal]
    · simp [same]

/-- A target is a role where the index of the baseline has the role under its own name. -/
theorem indexTargets_role_iff {baseline : BaselineContext} {targets : IndexedTargets}
    (ok : indexTargets baseline = .ok targets) (key : String) (roleId : RoleId) :
    targets[key]? = some (.role roleId) ↔
      roleId.value = key ∧ roleId ∈ baseline.roleIndex.map (·.roleId) := by
  unfold indexTargets at ok
  obtain ⟨roles, first, later⟩ := Result.bind_eq_ok ok
  have indexed := (Result.foldlM_collects (P := fun _ => True)
    (H := fun (targets : IndexedTargets) (thing : String × IndexedRetrievalTarget) =>
      targets[thing.1]? = some thing.2)
    (G := fun entry thing => entry.roleId.value = thing.1 ∧
      IndexedRetrievalTarget.role entry.roleId = thing.2)
    (fun _ _ ok => ⟨trivial, fun thing => insertTarget_eq_ok ok thing.1 thing.2⟩) first trivial).2
    (key, .role roleId)
  have known := (Result.foldlM_collects (P := fun _ => True)
    (H := fun (targets : IndexedTargets) (thing : String × IndexedRetrievalTarget) =>
      targets[thing.1]? = some thing.2)
    (G := fun entry thing => entry.sourceId.asStr = thing.1 ∧
      IndexedRetrievalTarget.knowledge entry.sourceId = thing.2)
    (fun _ _ ok => ⟨trivial, fun thing => insertTarget_eq_ok ok thing.1 thing.2⟩) later trivial).2
    (key, .role roleId)
  rw [known, indexed]
  simp only [Std.ExtTreeMap.getElem?_empty, IndexedRetrievalTarget.role.injEq, reduceCtorEq,
    and_false, exists_false, or_false, false_or, List.mem_map]
  constructor
  · rintro ⟨entry, member, named, rfl⟩
    exact ⟨named, entry, member, rfl⟩
  · rintro ⟨named, entry, member, rfl⟩
    exact ⟨entry, member, named, rfl⟩

theorem project_role_iff {baseline : BaselineContext} {inputTokens maxInputTokens : UInt64}
    {context : WriterPlannerPromptContext}
    (ok : WriterPlannerPromptContext.project baseline inputTokens maxInputTokens = .ok context)
    (key : String) (roleId : RoleId) :
    context.indexedTargets[key]? = some (.role roleId) ↔
      roleId.value = key ∧ roleId ∈ baseline.roleIndex.map (·.roleId) := by
  unfold WriterPlannerPromptContext.project at ok
  obtain ⟨targets, indexed, ok⟩ := Result.bind_eq_ok ok
  obtain ⟨_, _, ok⟩ := Result.bind_eq_ok ok
  cases ok
  exact indexTargets_role_iff indexed key roleId

/-! ### The roles that think -/

section
variable {planner : PlannerConfig} {snapshot : StoryReadSnapshot} {baseline : BaselineContext}

theorem convertThinkRequests_roleIds {dtos : List CharacterThinkRequestDto}
    {requests : List CharacterThinkRequest} (ok : planner.convertThinkRequests dtos = .ok requests) :
    requests.map (·.roleId.value) = dtos.map (·.roleId) := by
  have pairs := Result.mapM_eq_ok ok
  clear ok
  induction pairs with
  | nil => rfl
  | cons converted _ ih =>
    obtain ⟨roleId, made, converted⟩ := Result.bind_eq_ok converted
    obtain ⟨_, _, converted⟩ := Result.bind_eq_ok converted
    obtain ⟨reason, _, converted⟩ := Result.bind_eq_ok converted
    cases converted
    rw [List.map_cons, List.map_cons, ih, RoleId.tryNew_eq_some.mp (Result.okOr_eq_ok.mp made)]

/-- A role of the snapshot that is not the player's. -/
def StoryReadSnapshot.Thinker (snapshot : StoryReadSnapshot) (roleId : RoleId) : Prop :=
  ∃ role, snapshot.role roleId = some role ∧ role.controller = .ai ∧ roleId ≠ snapshot.playerRoleId

theorem validateThinkFrom_spec {seen : List RoleId} {requests out : List CharacterThinkRequest}
    (ok : validateThinkFrom snapshot seen requests = .ok out) :
    out = requests ∧ (∀ request ∈ requests, snapshot.Thinker request.roleId) ∧
      (∀ request ∈ requests, request.roleId ∉ seen) ∧ (requests.map (·.roleId)).Nodup := by
  induction requests generalizing seen out with
  | nil =>
    cases ok
    simp
  | cons request rest ih =>
    unfold validateThinkFrom at ok
    obtain ⟨_, other, ok⟩ := Result.bind_eq_ok ok
    obtain ⟨role, found, ok⟩ := Result.bind_eq_ok ok
    obtain ⟨_, controlled, ok⟩ := Result.bind_eq_ok ok
    obtain ⟨_, unseen, ok⟩ := Result.bind_eq_ok ok
    obtain ⟨later, checked, ok⟩ := Result.bind_eq_ok ok
    cases ok
    rw [Result.failIf_eq_ok] at other controlled unseen
    obtain ⟨rfl, thinkers, fresh, distinct⟩ := ih checked
    have thinker : snapshot.Thinker request.roleId :=
      ⟨role, Result.okOr_eq_ok.mp found, not_not.mp controlled, other⟩
    refine ⟨rfl, List.forall_mem_cons.mpr ⟨thinker, thinkers⟩, ?_, ?_⟩
    · refine List.forall_mem_cons.mpr ⟨unseen, fun request member => ?_⟩
      exact List.not_mem_of_not_mem_cons (fresh request member)
    · rw [List.map_cons, List.nodup_cons]
      refine ⟨fun member => ?_, distinct⟩
      obtain ⟨other, listed, same⟩ := List.mem_map.mp member
      exact List.ne_of_not_mem_cons (fresh other listed) same

/-- Who is known to a baseline and is not the player can think. -/
theorem thinker_of_known {roleId : RoleId} (portrays : baseline.Portrays snapshot)
    (other : roleId ≠ baseline.playerRole.roleId) (known : knownRole baseline roleId = true) :
    snapshot.Thinker roleId := by
  have apart : roleId ≠ snapshot.playerRoleId := portrays.player ▸ other
  have present : (snapshot.role roleId).isSome := by
    simp only [knownRole, Bool.or_eq_true, decide_eq_true_eq, List.any_eq_true] at known
    rcases known with (same | ⟨role, member, rfl⟩) | ⟨entry, member, rfl⟩
    · exact absurd same.symm other
    · exact Option.isSome_of_eq_some (portrays.relevant role member).1
    · exact (portrays.indexed entry member).1
  obtain ⟨role, found⟩ := Option.isSome_iff_exists.mp present
  exact ⟨role, found, StoryReadSnapshot.controller_of_ne_player found apart, apart⟩

/-- What an impulse adds: its target, unless a request is for it already. -/
theorem addImpulse_spec {seen : List RoleId} {additions next : BTreeMap RoleId BoundedText}
    {impulse : CharacterImpulse} (portrays : baseline.Portrays snapshot)
    (sound : ∀ roleId ∈ additions, roleId ∉ seen ∧ snapshot.Thinker roleId)
    (ok : addImpulse seen baseline planner additions impulse = .ok next) :
    (∀ roleId ∈ next, roleId ∉ seen ∧ snapshot.Thinker roleId) ∧
      ∀ roleId, (roleId ∈ seen ∨ roleId ∈ next) ↔
        (roleId ∈ seen ∨ roleId ∈ additions) ∨ impulse.targetRoleId = roleId := by
  unfold addImpulse at ok
  split at ok
  · rename_i present
    cases ok
    refine ⟨sound, fun roleId => ⟨.inl, ?_⟩⟩
    rintro (before | rfl)
    · exact before
    · exact present
  · rename_i absent
    obtain ⟨_, other, ok⟩ := Result.bind_eq_ok ok
    obtain ⟨_, known, ok⟩ := Result.bind_eq_ok ok
    obtain ⟨reason, _, ok⟩ := Result.bind_eq_ok ok
    cases ok
    rw [Result.failIf_eq_ok] at other known
    constructor
    · intro roleId member
      rw [Std.ExtTreeMap.mem_insert, compare_eq_iff_eq] at member
      rcases member with rfl | before
      · exact ⟨fun listed => absent (.inl listed),
          thinker_of_known portrays other (by simpa using known)⟩
      · exact sound roleId before
    · intro roleId
      rw [Std.ExtTreeMap.mem_insert, compare_eq_iff_eq, or_assoc, or_comm (a := _ = _)]

/-- The think requests of a plan: pairwise distinct thinkers, asked for by the planner or by an
impulse. -/
theorem thinkRequests_spec {builder : RetrievalPlanBuilder} {narrativePlan : NarrativePlan}
    {output : WriterPlannerOutputDto} {requests : List CharacterThinkRequest}
    (portrays : baseline.Portrays snapshot)
    (ok : builder.thinkRequests baseline narrativePlan output snapshot = .ok requests) :
    (∀ roleId ∈ requests.map (·.roleId), snapshot.Thinker roleId) ∧
      (requests.map (·.roleId)).Nodup ∧
      ∀ roleId : RoleId, roleId ∈ requests.map (·.roleId) ↔
        roleId.value ∈ output.characterThinkRequests.map (·.roleId) ∨
          roleId ∈ narrativePlan.characterImpulses.map (·.targetRoleId) := by
  unfold RetrievalPlanBuilder.thinkRequests at ok
  obtain ⟨converted, conversion, ok⟩ := Result.bind_eq_ok ok
  obtain ⟨validated, validation, merge⟩ := Result.bind_eq_ok ok
  obtain ⟨rfl, thinkers, _, distinct⟩ := validateThinkFrom_spec validation
  unfold mergeNarrativeThinkRequests at merge
  obtain ⟨additions, added, merge⟩ := Result.bind_eq_ok merge
  obtain ⟨_, _, merge⟩ := Result.bind_eq_ok merge
  cases merge
  obtain ⟨sound, collected⟩ := Result.foldlM_collects
    (P := fun additions : BTreeMap RoleId BoundedText => ∀ roleId ∈ additions,
      roleId ∉ validated.map (·.roleId) ∧ snapshot.Thinker roleId)
    (H := fun additions roleId => roleId ∈ validated.map (·.roleId) ∨ roleId ∈ additions)
    (G := fun impulse roleId => impulse.targetRoleId = roleId)
    (fun sound _ ok => addImpulse_spec portrays sound ok) added (by simp)
  have roles : (validated ++ additions.toList.map fun addition =>
      (⟨addition.1, addition.2⟩ : CharacterThinkRequest)).map (·.roleId) =
      validated.map (·.roleId) ++ additions.keys := by
    rw [List.map_append, List.map_map, ← Std.ExtTreeMap.map_fst_toList_eq_keys]
    rfl
  rw [roles]
  refine ⟨fun roleId member => ?_, ?_, fun roleId => ?_⟩
  · rcases List.mem_append.mp member with early | late
    · obtain ⟨request, listed, rfl⟩ := List.mem_map.mp early
      exact thinkers request listed
    · exact (sound roleId (Std.ExtTreeMap.mem_keys.mp late)).2
  · rw [List.nodup_append]
    refine ⟨distinct, Std.ExtTreeMap.nodup_keys, ?_⟩
    rintro roleId early other late rfl
    exact (sound roleId (Std.ExtTreeMap.mem_keys.mp late)).1 early
  · rw [List.mem_append, Std.ExtTreeMap.mem_keys, collected roleId]
    have named : roleId ∈ validated.map (·.roleId) ↔
        roleId.value ∈ output.characterThinkRequests.map (·.roleId) := by
      rw [← convertThinkRequests_roleIds conversion]
      simp only [List.mem_map]
      constructor
      · rintro ⟨request, member, rfl⟩
        exact ⟨request, member, rfl⟩
      · rintro ⟨request, member, same⟩
        exact ⟨request, member, RoleId.value_injective same⟩
    rw [named, List.mem_map]
    simp

end

/-! ### The roles that are retrieved -/

namespace RetrievalPlanBuilder
variable {builder : RetrievalPlanBuilder} {context : WriterPlannerPromptContext}

theorem addWriterGap_spec {gap : PlannerWriterContextGapDto}
    {found next : BaseCognition × List KnowledgeRetrievalRequest}
    (ok : builder.addWriterGap context found gap = .ok next) (roleId : RoleId) :
    roleId ∈ next.1 ↔ roleId ∈ found.1 ∨ context.indexedTargets[gap.targetId]? = some (.role roleId) := by
  unfold addWriterGap at ok
  obtain ⟨outcome, resolved, ok⟩ := Result.bind_eq_ok ok
  unfold PlannerConfig.resolveWriterGap at resolved
  obtain ⟨reason, _, resolved⟩ := Result.bind_eq_ok resolved
  split at resolved
  · cases resolved
  · rename_i other target
    cases resolved
    cases ok
    rw [target, Std.ExtTreeMap.mem_insertIfNew, compare_eq_iff_eq]
    simp [or_comm]
  · rename_i sourceId target
    obtain ⟨request, _, resolved⟩ := Result.bind_eq_ok resolved
    cases resolved
    cases ok
    simp [target]

theorem mem_addThinkers (requests : List CharacterThinkRequest) (cognition : BaseCognition)
    (roleId : RoleId) :
    roleId ∈ requests.foldl (fun cognition request =>
        cognition.insertIfNew request.roleId (request.reason, .automatic)) cognition ↔
      roleId ∈ cognition ∨ roleId ∈ requests.map (·.roleId) := by
  induction requests generalizing cognition with
  | nil => simp
  | cons request rest ih =>
    rw [List.foldl_cons, ih, Std.ExtTreeMap.mem_insertIfNew, compare_eq_iff_eq, List.map_cons,
      List.mem_cons, or_comm (a := request.roleId = roleId), or_assoc, eq_comm (a := roleId)]

theorem mem_characterRequestsOf (cognition : BaseCognition) (roleId : RoleId) :
    roleId ∈ (characterRequestsOf cognition).map (·.roleId) ↔ roleId ∈ cognition := by
  unfold characterRequestsOf
  rw [((List.perm_insertionSort _ _).map _).mem_iff, List.map_map, ← Std.ExtTreeMap.mem_keys,
    ← Std.ExtTreeMap.map_fst_toList_eq_keys]
  rfl

/-- The roles of a plan: those the writer asked for, and those that think. -/
theorem characterRequests_iff {thinkRequests : List CharacterThinkRequest}
    {output : WriterPlannerOutputDto} {plan : RetrievalPlan}
    (ok : builder.retrievalPlan thinkRequests output context = .ok plan) (roleId : RoleId) :
    roleId ∈ plan.characterRequests.map (·.roleId) ↔
      (∃ gap ∈ output.writerContextGaps,
        context.indexedTargets[gap.targetId]? = some (.role roleId)) ∨
      roleId ∈ thinkRequests.map (·.roleId) := by
  unfold retrievalPlan at ok
  obtain ⟨⟨cognition, knowledge⟩, gaps, ok⟩ := Result.bind_eq_ok ok
  obtain ⟨character, _, ok⟩ := Result.bind_eq_ok ok
  obtain ⟨_, _, ok⟩ := Result.bind_eq_ok ok
  cases ok
  have asked := (Result.foldlM_collects (P := fun _ => True)
    (H := fun (found : BaseCognition × List KnowledgeRetrievalRequest) roleId => roleId ∈ found.1)
    (fun _ _ ok => ⟨trivial, addWriterGap_spec ok⟩) gaps trivial).2 roleId
  rw [mem_characterRequestsOf, mem_addThinkers, asked]
  simp

end RetrievalPlanBuilder

end Aise.Domain
