import Aise.Context.RetrievalPipeline
import Aise.Planning.RetrievalPlanBuilder
import Aise.Turn.Calls

/-! Who gets an audience in the retrieval stage, and whether the plan of the turn lets it be heard. -/
namespace Aise.Domain
open Effect

/-! ### The audiences of a stage -/

theorem characterViews_iff {snapshot : StoryReadSnapshot} {requests : List CharacterRetrievalRequest}
    {views : BTreeMap RoleId RoleContextView} (ok : characterViews snapshot requests = .ok views)
    (roleId : RoleId) : roleId ∈ views ↔ roleId ∈ requests.map (·.roleId) := by
  have collected := (Result.foldlM_collects (P := fun _ => True)
    (H := fun (views : BTreeMap RoleId RoleContextView) roleId => roleId ∈ views)
    (G := fun request roleId => request.roleId = roleId) (fun {total request next} _ _ ok => by
      obtain ⟨role, _, ok⟩ := Result.bind_eq_ok ok
      cases ok
      refine ⟨trivial, fun roleId => ?_⟩
      rw [Std.ExtTreeMap.mem_insert, compare_eq_iff_eq, or_comm]) ok trivial).2 roleId
  rw [collected, List.mem_map]
  simp

theorem characterViews_total {snapshot : StoryReadSnapshot}
    {requests : List CharacterRetrievalRequest}
    (known : ∀ request ∈ requests, (snapshot.role request.roleId).isSome) :
    ∃ views, characterViews snapshot requests = .ok views := by
  unfold characterViews
  generalize (∅ : BTreeMap RoleId RoleContextView) = views
  induction requests generalizing views with
  | nil => exact ⟨views, rfl⟩
  | cons request rest ih =>
    obtain ⟨here, later⟩ := List.forall_mem_cons.mp known
    obtain ⟨role, found⟩ := Option.isSome_iff_exists.mp here
    rw [List.foldlM_cons]
    refine Result.bind_total ?_ fun next _ => ih later next
    exact ⟨views.insert request.roleId role, by rw [found]; rfl⟩

theorem tryNew_characters {world : RetrievedWorldKnowledge}
    {characters : BTreeMap RoleId RetrievedCharacterContext} {limits : RetrievedContextLimits}
    {context : RetrievedContext} (ok : RetrievedContext.tryNew world characters limits = .ok context) :
    context = ⟨world, characters⟩ := by
  unfold RetrievedContext.tryNew at ok
  split at ok
  · cases ok
  · obtain ⟨_, _, ok⟩ := Result.bind_eq_ok ok
    obtain ⟨_, _, ok⟩ := Result.bind_eq_ok ok
    obtain ⟨_, _, ok⟩ := Result.bind_eq_ok ok
    obtain ⟨_, _, ok⟩ := Result.bind_eq_ok ok
    obtain ⟨_, _, ok⟩ := Result.bind_eq_ok ok
    obtain ⟨_, _, ok⟩ := Result.bind_eq_ok ok
    split at ok
    · cases ok
    · obtain ⟨_, _, ok⟩ := Result.bind_eq_ok ok
      split at ok
      · cases ok
      · exact (Except.ok.inj ok).symm

/-- The code of the refusal that the context of a turn gives to an audience. -/
def audienceUnauthorized : String := "retrieved_character_audience_unauthorized"

theorem mapContextError_code (error : ContextError) :
    (mapContextError error).code ≠ audienceUnauthorized := by
  change error.turnCode ≠ audienceUnauthorized
  cases error with
  | activation error =>
    cases error <;> simp [ContextError.turnCode, ActivationError.code, audienceUnauthorized]
  | store error => cases error <;> simp [ContextError.turnCode, audienceUnauthorized]
  | _ => simp [ContextError.turnCode, audienceUnauthorized]

theorem retrievedContextError_code (error : RetrievedContextError) :
    error.turnCode ≠ audienceUnauthorized := by
  cases error <;> simp [RetrievedContextError.turnCode, audienceUnauthorized]

theorem contextual_code {α : Type} {result : Except ContextError α} {failure : TurnExecutionError}
    (failed : contextual result = .error failure) : failure.code ≠ audienceUnauthorized := by
  obtain ⟨cause, _, rfl⟩ := Result.mapError_eq_error failed
  exact mapContextError_code cause

theorem retrieved_code {α : Type} {result : Except RetrievedContextError α}
    {failure : TurnExecutionError} (failed : retrieved result = .error failure) :
    failure.code ≠ audienceUnauthorized := by
  obtain ⟨cause, _, rfl⟩ := Result.mapError_eq_error failed
  exact retrievedContextError_code cause

namespace ContextRetrievalPipeline
variable {Projection : Type} {pipeline : ContextRetrievalPipeline} {ports : ContextPorts Projection}
  {identity : TurnIdentity} {snapshot : StoryReadSnapshot} {plan : WriterPlan}
  {baseline : BaselineContext} {projection : Projection} {prepared : PreparedActivation}
  {maxCharacterDecisions : Nat} {failure : TurnExecutionError}

section
variable {memoryTargets : BTreeMap RoleId (List KnowledgeSourceId)}
  {activated : List ActivatedKnowledgeRef} {loadedEntries : LoadedEntries}
  {views : BTreeMap RoleId RoleContextView}
  {characters : BTreeMap RoleId RetrievedCharacterContext}

theorem loadCharacters_iff
    (ok : pipeline.loadCharacters ports snapshot memoryTargets activated loadedEntries views =
      .ok characters) (roleId : RoleId) : roleId ∈ characters ↔ roleId ∈ views := by
  have collected := (Result.foldlM_collects (P := fun _ => True)
    (H := fun (characters : BTreeMap RoleId RetrievedCharacterContext) roleId =>
      roleId ∈ characters)
    (G := fun entry roleId => entry.1 = roleId) (fun {total entry next} _ _ ok => by
      obtain ⟨character, _, ok⟩ := Result.bind_eq_ok ok
      cases ok
      refine ⟨trivial, fun roleId => ?_⟩
      rw [Std.ExtTreeMap.mem_insert, compare_eq_iff_eq, or_comm]) ok trivial).2 roleId
  rw [collected, ← Std.ExtTreeMap.mem_keys (t := views), ← Std.ExtTreeMap.map_fst_toList_eq_keys,
    List.mem_map]
  simp

theorem loadMemories_code {roleId : RoleId}
    (failed : pipeline.loadMemories ports snapshot memoryTargets roleId = .error failure) :
    failure.code ≠ audienceUnauthorized := by
  unfold loadMemories at failed
  split at failed
  · rcases Result.bind_eq_error failed with unread | ⟨records, _, failed⟩
    · exact contextual_code unread
    · rcases Result.bind_eq_error failed with foreign | ⟨_, _, failed⟩
      · exact retrieved_code foreign
      · cases failed
  · exact contextual_code failed

theorem loadCharacters_code
    (failed : pipeline.loadCharacters ports snapshot memoryTargets activated loadedEntries views =
      .error failure) : failure.code ≠ audienceUnauthorized := by
  obtain ⟨total, entry, _, failed⟩ := Result.foldlM_eq_error failed
  rcases Result.bind_eq_error failed with unloaded | ⟨_, _, failed⟩
  · rcases Result.bind_eq_error unloaded with unread | ⟨rumors, _, failed⟩
    · exact contextual_code unread
    · rcases Result.bind_eq_error failed with forgotten | ⟨_, _, failed⟩
      · exact loadMemories_code forgotten
      · cases failed
  · cases failed

end

/-- A stage that retrieves has an audience for every role that the plan requests, and no other. -/
theorem retrieve_iff {activation : PreparedActivation} {context : RetrievedContext}
    (ok : pipeline.retrieve ports identity maxCharacterDecisions plan snapshot baseline projection
      prepared = .ok (activation, context)) (roleId : RoleId) :
    roleId ∈ context.characters ↔ roleId ∈ plan.retrievalPlan.characterRequests.map (·.roleId) := by
  unfold retrieve at ok
  obtain ⟨views, viewed, ok⟩ := Result.bind_eq_ok ok
  obtain ⟨⟨routed, outcome⟩, _, ok⟩ := Result.bind_eq_ok ok
  obtain ⟨world, _, ok⟩ := Result.bind_eq_ok ok
  obtain ⟨characters, loaded, ok⟩ := Result.bind_eq_ok ok
  obtain ⟨made, assembled, ok⟩ := Result.bind_eq_ok ok
  cases ok
  cases tryNew_characters (Result.mapError_eq_ok.mp assembled)
  rw [Std.ExtTreeMap.mem_map, loadCharacters_iff loaded,
    characterViews_iff (Result.mapError_eq_ok.mp viewed)]

theorem retrieve_code
    (failed : pipeline.retrieve ports identity maxCharacterDecisions plan snapshot baseline projection
      prepared = .error failure) : failure.code ≠ audienceUnauthorized := by
  unfold retrieve at failed
  rcases Result.bind_eq_error failed with unseen | ⟨views, _, failed⟩
  · exact contextual_code unseen
  rcases Result.bind_eq_error failed with unresumed | ⟨resumed, _, failed⟩
  · exact contextual_code unresumed
  rcases Result.bind_eq_error failed with unread | ⟨world, _, failed⟩
  · exact contextual_code unread
  rcases Result.bind_eq_error failed with unloaded | ⟨characters, _, failed⟩
  · exact loadCharacters_code unloaded
  rcases Result.bind_eq_error failed with untrimmed | ⟨_, _, failed⟩
  · exact retrieved_code untrimmed
  · cases failed

end ContextRetrievalPipeline

/-! ### What the context of the turn says to them -/

namespace TurnExecutionContext
variable {T : TurnRecords} {ctx next : TurnExecutionContext T} {plan : WriterPlan}
  {context : RetrievedContext} {failure : TurnExecutionError}

theorem expectPhase_code {expected : TurnPhase}
    (failed : (expectPhase expected : M T Unit) ctx = .error failure next) :
    failure.code ≠ audienceUnauthorized := by
  obtain ⟨_, rfl⟩ := throwIf_eq_error failed
  simp [violation, audienceUnauthorized]

theorem replaceActivation_ok {activation : T.Activation}
    (ran : (replaceActivation activation : M T Unit) ctx = .ok ⟨⟩ next) : next.plan = ctx.plan := by
  obtain ⟨_, _, ran⟩ := (spares_expectPhase .planned).bind_eq_ok ran
  cases ran
  rfl

theorem replaceActivation_code {activation : T.Activation}
    (failed : (replaceActivation activation : M T Unit) ctx = .error failure next) :
    failure.code ≠ audienceUnauthorized := by
  unfold replaceActivation at failed
  rcases run_bind_eq_error failed with early | ⟨_, _, _, failed⟩
  · exact expectPhase_code early
  · cases failed

theorem expectPlan_ok {stage : TurnStage} {message : String} (planned : ctx.plan = some plan) :
    (expectPlan stage message : M T WriterPlan) ctx = .ok plan ctx := by
  unfold expectPlan
  rw [run_get_bind, planned]
  rfl

/-- Audiences that the plan asked to think are not refused. -/
theorem setRetrievedContext_code (planned : ctx.plan = some plan)
    (allowed : ∀ roleId ∈ context.characters.keys, roleId ∈ plan.characterThinkRequests.map (·.roleId))
    (failed : (setRetrievedContext context : M T Unit) ctx = .error failure next) :
    failure.code ≠ audienceUnauthorized := by
  rcases (spares_expectPhase .planned).bind_eq_error failed with early | ⟨_, _, failed⟩
  · exact expectPhase_code early
  rw [run_get_bind] at failed
  rcases (spares_expectPlan _ _).bind_eq_error failed with unplanned | ⟨found, read, failed⟩
  · rw [expectPlan_ok planned] at unplanned
    cases unplanned
  rw [expectPlan_ok planned] at read
  cases read
  rcases spares_throwIf.bind_eq_error failed with refused | ⟨_, _, failed⟩
  · obtain ⟨⟨roleId, member, unasked⟩, _⟩ := throwIf_eq_error refused
    exact absurd (allowed roleId member) unasked
  rcases run_bind_eq_error failed with invalid | ⟨_, _, _, failed⟩
  · obtain ⟨cause, _, rfl⟩ := orThrow_eq_error invalid
    exact retrievedContextError_code cause
  · cases failed

end TurnExecutionContext

namespace ContextRetrievalPipeline
variable {Projection Envelope ChangeSet Committed : Type} {pipeline : ContextRetrievalPipeline}
  {ports : ContextPorts Projection} {identity : TurnIdentity} {plan : WriterPlan}
  {ctx next : TurnExecutionContext (StoryTurnRecords Projection Envelope ChangeSet Committed)}
  {failure : TurnExecutionError}

theorem spares_expect {α : Type} {T : TurnRecords} (value : Option α) (missing : ContextError) :
    Spares id (expect value missing : TurnExecutionContext.M T α) :=
  spares_orThrow _ _

theorem expect_code {α : Type} {T : TurnRecords} {before after : TurnExecutionContext T}
    {value : Option α} {missing : ContextError}
    (failed : (expect value missing : TurnExecutionContext.M T α) before = .error failure after) :
    failure.code ≠ audienceUnauthorized := by
  obtain ⟨cause, _, rfl⟩ := orThrow_eq_error failed
  exact mapContextError_code cause

/-- Where every role of the plan is asked to think, no audience is refused. -/
theorem executeInner_code (planned : ctx.plan = some plan)
    (allowed : ∀ roleId ∈ plan.retrievalPlan.characterRequests.map (·.roleId),
      roleId ∈ plan.characterThinkRequests.map (·.roleId))
    (failed : pipeline.executeInner ports identity ctx = .error failure next) :
    failure.code ≠ audienceUnauthorized := by
  unfold executeInner at failed
  rw [run_get_bind, planned] at failed
  rcases (spares_expect _ _).bind_eq_error failed with missing | ⟨found, read, failed⟩
  · exact expect_code missing
  cases read
  rcases (spares_expect _ _).bind_eq_error failed with missing | ⟨snapshot, _, failed⟩
  · exact expect_code missing
  rcases (spares_expect _ _).bind_eq_error failed with missing | ⟨baseline, _, failed⟩
  · exact expect_code missing
  rcases (spares_expect _ _).bind_eq_error failed with missing | ⟨projection, _, failed⟩
  · exact expect_code missing
  rcases (spares_expect _ _).bind_eq_error failed with missing | ⟨prepared, _, failed⟩
  · exact expect_code missing
  rcases (spares_orThrow _ _).bind_eq_error failed with unretrieved | ⟨⟨_, context⟩, read, failed⟩
  · obtain ⟨cause, lost, rfl⟩ := orThrow_eq_error unretrieved
    exact retrieve_code lost
  rcases run_bind_eq_error failed with early | ⟨_, later, replaced, failed⟩
  · exact TurnExecutionContext.replaceActivation_code early
  refine TurnExecutionContext.setRetrievedContext_code
    ((TurnExecutionContext.replaceActivation_ok replaced).trans planned) (fun roleId member => ?_)
    failed
  have got := (orThrow_eq_ok read).1
  exact allowed roleId ((retrieve_iff got roleId).mp (Std.ExtTreeMap.mem_keys.mp member))

end ContextRetrievalPipeline

/-! ### Plans that are accepted -/

/-- Whoever gets an audience under a plan was asked to think, and no stage that carries out the plan
is refused for an audience. -/
structure WriterPlan.Authorized (plan : WriterPlan) (snapshot : StoryReadSnapshot) : Prop where
  audiences : ∀ views, characterViews snapshot plan.retrievalPlan.characterRequests = .ok views →
    ∀ roleId ∈ views, roleId ∈ plan.characterThinkRequests.map (·.roleId)
  counted : ∀ views, characterViews snapshot plan.retrievalPlan.characterRequests = .ok views →
    views.size ≤ plan.characterThinkRequests.length
  accepted : ∀ {Projection Envelope ChangeSet Committed : Type} (pipeline : ContextRetrievalPipeline)
    (ports : ContextPorts Projection) (identity : TurnIdentity)
    (ctx next : TurnExecutionContext (StoryTurnRecords Projection Envelope ChangeSet Committed))
    (failure : TurnExecutionError), ctx.plan = some plan → ctx.snapshot = some snapshot →
    pipeline.executeInner ports identity ctx = .error failure next →
      failure.code ≠ audienceUnauthorized

/-- A role of the index that the writer asks for is also one to think, by the planner or by the
narrative. -/
def WriterPlannerOutputDto.GapsThink (output : WriterPlannerOutputDto) (baseline : BaselineContext)
    (narrativePlan : NarrativePlan) : Prop :=
  ∀ gap ∈ output.writerContextGaps, ∀ roleId ∈ baseline.roleIndex.map (·.roleId),
    roleId.value = gap.targetId →
      gap.targetId ∈ output.characterThinkRequests.map (·.roleId) ∨
        roleId ∈ narrativePlan.characterImpulses.map (·.targetRoleId)

section
variable {plan : WriterPlan} {snapshot : StoryReadSnapshot}

theorem WriterPlan.Authorized.of_requests
    (allowed : ∀ roleId ∈ plan.retrievalPlan.characterRequests.map (·.roleId),
      roleId ∈ plan.characterThinkRequests.map (·.roleId)) : plan.Authorized snapshot where
  audiences views viewed roleId member :=
    allowed roleId ((characterViews_iff viewed roleId).mp member)
  counted views viewed := by
    have within : views.keys ⊆ plan.characterThinkRequests.map (·.roleId) := by
      intro roleId member
      exact allowed roleId ((characterViews_iff viewed roleId).mp (Std.ExtTreeMap.mem_keys.mp member))
    have distinct : views.keys.Nodup := Std.ExtTreeMap.nodup_keys
    have shorter := (List.subperm_of_subset distinct within).length_le
    rwa [Std.ExtTreeMap.length_keys, List.length_map] at shorter
  accepted pipeline ports identity ctx next failure planned _ failed :=
    ContextRetrievalPipeline.executeInner_code planned allowed failed

variable {Projection : Type} {ports : ContextPorts Projection} {config : RetrievalConfig}
  {preparation : ContextPreparationConfig} {identity : TurnIdentity} {baseline : BaselineContext}
  {outcome : Projection × PreparedActivation} {inputTokens maxInputTokens : UInt64}
  {context : WriterPlannerPromptContext} {builder : RetrievalPlanBuilder}
  {narrativePlan : NarrativePlan} {output : WriterPlannerOutputDto}

theorem build_eq_ok (built : builder.build baseline narrativePlan output snapshot context = .ok plan) :
    builder.thinkRequests baseline narrativePlan output snapshot = .ok plan.characterThinkRequests ∧
      builder.retrievalPlan plan.characterThinkRequests output context = .ok plan.retrievalPlan := by
  unfold RetrievalPlanBuilder.build at built
  obtain ⟨_, _, built⟩ := Result.bind_eq_ok built
  obtain ⟨_, _, built⟩ := Result.bind_eq_ok built
  obtain ⟨_, _, built⟩ := Result.bind_eq_ok built
  obtain ⟨storyGoal, _, built⟩ := Result.bind_eq_ok built
  obtain ⟨thinkRequests, thought, built⟩ := Result.bind_eq_ok built
  obtain ⟨retrievalPlan, planned, built⟩ := Result.bind_eq_ok built
  cases built
  exact ⟨thought, planned⟩

/-- The think requests of an accepted plan are for distinct roles of the machine. Its audiences are
all let in exactly where the gaps of the writer are for roles that think. -/
theorem accepted_plan_authorized_iff
    (prepared : prepareBaseline ports config preparation snapshot identity = .ok (baseline, outcome))
    (projected : WriterPlannerPromptContext.project baseline inputTokens maxInputTokens = .ok context)
    (built : builder.build baseline narrativePlan output snapshot context = .ok plan) :
    (plan.characterThinkRequests.map (·.roleId)).Nodup ∧
      (∀ request ∈ plan.characterThinkRequests, ∃ role,
        snapshot.role request.roleId = some role ∧ role.controller = .ai) ∧
      (plan.Authorized snapshot ↔ output.GapsThink baseline narrativePlan) := by
  have portrays := prepareBaseline_portrays prepared
  obtain ⟨thought, planned⟩ := build_eq_ok built
  obtain ⟨thinkers, distinct, thinks⟩ := thinkRequests_spec portrays thought
  have requested := RetrievalPlanBuilder.characterRequests_iff planned
  have targeted := project_role_iff projected
  refine ⟨distinct, fun request member => ?_, ⟨fun authorized => ?_, fun think => ?_⟩⟩
  · obtain ⟨role, found, controlled, _⟩ := thinkers _ (List.mem_map_of_mem member)
    exact ⟨role, found, controlled⟩
  · -- every role of the plan is one of the snapshot, so each has its view
    obtain ⟨views, viewed⟩ : ∃ views,
        characterViews snapshot plan.retrievalPlan.characterRequests = .ok views := by
      refine characterViews_total fun request member => ?_
      rcases (requested _).mp (List.mem_map_of_mem member) with ⟨gap, _, target⟩ | thinking
      · obtain ⟨entry, listed, same⟩ := List.mem_map.mp ((targeted _ _).mp target).2
        exact same ▸ (portrays.indexed entry listed).1
      · obtain ⟨role, found, _⟩ := thinkers _ thinking
        exact Option.isSome_of_eq_some found
    intro gap member roleId listed named
    have asked := (requested roleId).mpr
      (.inl ⟨gap, member, (targeted gap.targetId roleId).mpr ⟨named, listed⟩⟩)
    have heard := authorized.audiences views viewed roleId ((characterViews_iff viewed roleId).mpr asked)
    exact named ▸ (thinks roleId).mp heard
  · refine .of_requests fun roleId asked => ?_
    rcases (requested roleId).mp asked with ⟨gap, member, target⟩ | thinking
    · obtain ⟨named, listed⟩ := (targeted _ _).mp target
      refine (thinks roleId).mpr ?_
      rw [named]
      exact think gap member roleId listed named
    · exact thinking

end

namespace Authorization.Sample

def fable : StoryId := ⟨"fable", by decide⟩

def digest : Sha256Digest := ⟨List.replicate 32 7, rfl⟩

def turn : TurnNumber := ⟨38, by decide⟩

def steward : RoleId := ⟨"steward", by decide +kernel⟩

def guard : RoleId := ⟨"guard", by decide +kernel⟩

def role (roleId : RoleId) (location : String) (controller : RoleController) : RoleContextView where
  roleId := roleId
  roleLabel := ⟨roleId.value⟩
  narrativeFunction := ⟨"watches the gate"⟩
  name := ⟨roleId.value⟩
  location := ⟨location⟩
  controller := controller

def roles : StoryRoles := (∅ : StoryRoles)
  |>.insert steward (role steward "hall" (.player "player"))
  |>.insert guard (role guard "gate" .ai)

def reference : KnowledgeSnapshotRef := ⟨fable, digest, 3, 0⟩

/-- The player is the steward, and the guard is elsewhere. -/
def snapshot : StoryReadSnapshot where
  storyId := fable
  baseRevision := 3
  packDigest := digest
  storyTitle := ⟨"The Gate"⟩
  roles := roles
  narrativeDefinition := { entryNodes := [], nodes := ∅ }
  storyContinuity := { summary := ⟨""⟩ }
  knowledgeSnapshot := reference
  playerRoleId := steward
  keyed := StoryReadSnapshotParts.keyed_of_forall (by decide +kernel)
  player := by decide +kernel

def identity : TurnIdentity := ⟨fable, turn, "I wait."⟩

def index : ActivationIndexSnapshot where
  reference := ⟨fable, digest, 3, 0, 1⟩
  constantEntries := []
  metadata := ∅

def activation : PreparedActivation where
  continuation := {
    turnNumber := turn
    generationTrigger := .normal
    knowledgeSnapshot := reference
    indexSnapshot := index.reference
    scanDepth := 0
    limits := {} }
  pendingTimedState := {}
  indexSnapshot := index
  loadedEntries := ∅

def runOutcome : ActivationRunOutcome where
  result := {
    activated := []
    continuation := activation.continuation
    pendingTimedState := {}
    rejectionSummary := fun _ => none
    stopReason := .complete }
  indexSnapshot := index
  loadedEntries := ∅

/-- Nothing is activated, and nothing is remembered. -/
def ports : ContextPorts Unit where
  project _ _ := .ok ⟨⟩
  buildActivationScanBuffer _ _ _ _ :=
    (ActivationScanBuffer.tryNew [] 8 8).mapError fun _ => .invalidRecord "scan"
  run _ := .ok runOutcome
  runWithIndex _ _ := .ok runOutcome
  findBySourceIds _ := .ok []
  findMemoriesByOwner _ := .ok []
  listIndex _ := .ok []

def baseline : BaselineContext where
  storyTitle := ⟨"The Gate"⟩
  playerRole := role steward "hall" (.player "player")
  relevantRoles := []
  relevantWorldKnowledge := {}
  roleIndex := [⟨guard, ⟨"watches the gate"⟩⟩]
  knowledgeIndex := []
  storyContinuity := { summary := ⟨""⟩ }
  activeStoryConstraints := []

def context : WriterPlannerPromptContext where
  indexedTargets := (∅ : IndexedTargets).insert "guard" (.role guard)

/-- The planner asks about the guard, and asks those in the list to think. -/
def output (thinkers : List String) : WriterPlannerOutputDto where
  storyGoal := "open the gate"
  writerContextGaps := [⟨"guard", "recall the guard"⟩]
  characterThinkRequests := thinkers.map fun roleId => ⟨roleId, "decide"⟩

def plan (requests : List CharacterThinkRequest) : WriterPlan where
  storyGoal := ⟨"open the gate"⟩
  retrievalPlan := { characterRequests := [⟨guard, ⟨"recall the guard"⟩, .planner⟩] }
  characterThinkRequests := requests

def ctx (plan : WriterPlan) : TurnExecutionContext (StoryTurnRecords Unit Unit Unit Unit) where
  phase := .planned
  budget := { limits := ⟨1, 9, 1000, 1000, 2000, 10, 2048, 20, 4096, 4096, 4096, 8, 4096, 4096, 4096,
    4096, 512⟩ }
  snapshot := some snapshot
  baseline := some baseline
  plan := some plan
  narrativeProjection := some ⟨⟩
  activation := some activation

theorem prepared : prepareBaseline ports {} {} snapshot identity = .ok (baseline, ⟨⟩, activation) := by
  rfl

theorem projected : WriterPlannerPromptContext.project baseline 100 1000 = .ok context := by
  rfl

/-- The code of the failure a run ends with. -/
def failureCode {σ : Type} : EStateM.Result TurnExecutionError σ Unit → Option String
  | .ok _ _ => none
  | .error failure _ => some failure.code

/-- A plan for a role that is not asked to think is accepted, and is then refused its audience. -/
theorem guard_refused :
    prepareBaseline ports {} {} snapshot identity = .ok (baseline, ⟨⟩, activation) ∧
      WriterPlannerPromptContext.project baseline 100 1000 = .ok context ∧
      ({} : RetrievalPlanBuilder).build baseline {} (output []) snapshot context = .ok (plan []) ∧
      failureCode (({ maxExternalCandidates := 8 } : ContextRetrievalPipeline).executeInner ports
        identity (ctx (plan []))) = some "retrieved_character_audience_unauthorized" ∧
      ¬(plan []).Authorized snapshot := by
  refine ⟨prepared, projected, by decide +kernel, by decide +kernel, fun authorized => ?_⟩
  obtain ⟨views, viewed⟩ : ∃ views,
      characterViews snapshot (plan []).retrievalPlan.characterRequests = .ok views :=
    ⟨_, rfl⟩
  have heard := authorized.audiences views viewed guard ((characterViews_iff viewed guard).mpr
    (by decide +kernel))
  exact List.not_mem_nil heard

theorem thoughtful_guard_heard :
    (plan [⟨guard, ⟨"decide"⟩⟩]).Authorized snapshot := by
  have built : ({} : RetrievalPlanBuilder).build baseline {} (output ["guard"]) snapshot context =
      .ok (plan [⟨guard, ⟨"decide"⟩⟩]) := by
    decide +kernel
  refine (accepted_plan_authorized_iff prepared projected built).2.2.mpr fun gap member _ _ _ => ?_
  cases List.mem_singleton.mp member
  exact .inl (by decide +kernel)

end Authorization.Sample

end Aise.Domain
