import Aise.Domain.Activation.Timeline
import Aise.Story.StoredConstraints
import Aise.Validation.ChangeSet

/-! The rows of a story in the store, and how a turn is committed to them. JSON columns are taken
for the values that they are the text of. -/
namespace Aise.Domain

def NarrativeTransitionKind.expectedFrom : NarrativeTransitionKind → NarrativeNodeState
  | activate => .inactive
  | complete | skip => .active

end Aise.Domain

namespace Aise.Domain.Persistence
open SerdeJson

/-! ### Errors -/

inductive StoreSerializationErrorKind where
  | invalidTurnResult | invalidRoleState | invalidStoryState | invalidEventPayload
  deriving DecidableEq

inductive StoreError where
  | notFound | revisionConflict | idempotencyConflict
  | constraintViolation (constraint : String)
  | limitExceeded (limit : String)
  | serialization (kind : StoreSerializationErrorKind)
  | unavailable
  deriving DecidableEq

/-- What the database says of a key that is there already. -/
def StoreError.duplicateKey : StoreError := .constraintViolation "1555"

/-- What the database says of a row that does not pass a check of its table. -/
def StoreError.checkFailed : StoreError := .constraintViolation "275"

/-! ### Rows -/

/-- An integer column that is checked not to be negative. -/
structure StoredCount where
  get : UInt64
  fits : get.toNat < 2 ^ 63
  deriving DecidableEq

/-- `value as i64`, and the check of the column. -/
def StoredCount.store (value : UInt64) : Except StoreError StoredCount :=
  if fits : value.toNat < 2 ^ 63 then .ok ⟨value, fits⟩ else .error .checkFailed

structure LlmUsageAggregate where
  llmCalls : UInt32
  inputTokens : UInt64
  outputTokens : UInt64
  totalTokens : UInt64
  deriving DecidableEq

structure CommittedTurnResult where
  turnNumber : TurnNumber
  storyRevision : UInt64
  storyText : String
  llmUsage : LlmUsageAggregate
  llmCalls : List LlmCallUsage
  deriving DecidableEq

structure StoredTurn where
  turnNumber : TurnNumber
  idempotencyKey : String
  requestDigest : String
  result : CommittedTurnResult
  deriving DecidableEq

structure StoredSegment where
  origin : StorySegmentOrigin
  storyText : String
  deriving DecidableEq

/-- The row of the pack that a story is an instance of, with what its version, its digest and its
narrative definition are read as. -/
structure StoredPack where
  packId : AssetKey
  digest : Sha256Digest
  storyTitle : Option String
  profileLength : Nat
  narrativeLength : Nat
  narrativeDefinition : NarrativeGraphDefinition
  /-- A definition that was read has valid keys. -/
  storable : narrativeDefinition.Storable

abbrev KnowledgeRows := BTreeMap KnowledgeSourceId KnowledgeEntry

/-- The rows of a story. An entry of knowledge is its payload, and segments are found by their
sequence. -/
structure StoredStory where
  storyId : StoryId
  pack : StoredPack
  revision : Int64
  lastTurnNumber : StoredCount
  storySummaryJson : Json
  activeConstraintsJson : Json
  settingsJson : Json
  rolesJson : Json
  relationshipsJson : Json
  narrativeStateJson : Json
  factValuesJson : Json
  knowledgeIdHighWater : StoredCount
  roleIdHighWater : StoredCount
  turns : List StoredTurn := []
  segments : BTreeMap Nat StoredSegment
  events : List StoryEvent := []
  knowledge : KnowledgeRows
  timedState : TimedRows := ∅
  sequenced : ∀ sequence ∈ segments, 0 < sequence ∧ sequence < 2 ^ 63
  /-- No row belongs to a turn that is still to come. -/
  turnsPast : ∀ turn ∈ turns, turn.turnNumber.get.toNat ≤ lastTurnNumber.get.toNat
  eventsPast : ∀ event ∈ events, event.turnNumber.get.toNat ≤ lastTurnNumber.get.toNat
  knowledgeKeyed : ∀ (id : KnowledgeSourceId) (entry : KnowledgeEntry),
    knowledge[id]? = some entry → entry.sourceId = id

/-- `SQLITE_MAX_LENGTH`, which nothing sets to another value. -/
def maxValueBytes : Nat := 1000000000

/-- The columns with JSON text in the row of a story. -/
def StoredStory.columns (story : StoredStory) : List Json :=
  [story.storySummaryJson, story.activeConstraintsJson, story.settingsJson, story.rolesJson,
    story.relationshipsJson, story.narrativeStateJson, story.factValuesJson]

/-- The database has room for the row: a statement with a longer value fails. -/
def StoredStory.Fits (story : StoredStory) : Prop :=
  ∀ json ∈ story.columns, size json.pieces ≤ maxValueBytes

instance : DecidablePred StoredStory.Fits := fun story =>
  inferInstanceAs (Decidable (∀ json ∈ story.columns, size json.pieces ≤ maxValueBytes))

structure TurnCommitSpec where
  storyId : StoryId
  baseRevision : UInt64
  expectedGraphRevision : UInt64
  turnNumber : TurnNumber
  changes : ValidatedChangeSet
  idempotencyKey : String
  requestDigest : String
  llmCalls : List LlmCallUsage := []
  activationStateDelta : PendingActivationStateDelta := {}

/-! ### Roles and relationships -/

def addNewRoles (roles : BTreeMap RoleId StoryRole) (newRoles : List StoryRole) :
    Except StoreError (BTreeMap RoleId StoryRole) :=
  newRoles.foldlM (fun roles role =>
    if role.roleId ∈ roles then .error (.constraintViolation "new_role_id_collision")
    else .ok (roles.insert role.roleId role)) roles

def applyRoleChanges (roles : BTreeMap RoleId StoryRole) (changes : List RoleStateChange) :
    Except StoreError (BTreeMap RoleId StoryRole) :=
  changes.foldlM (fun roles change =>
    match roles[change.roleId]? with
    | none => .error (.constraintViolation "role_change_reference")
    | some role => .ok (roles.insert change.roleId { role with state := change.newState })) roles

def orderKey (key : RelationshipKey) : OrderedRelationshipKey := toLex (key.1, toLex key.2)

abbrev RelationshipRows := BTreeMap OrderedRelationshipKey RelationshipState

def relationshipsByKey (relationships : List RelationshipState) : RelationshipRows :=
  relationships.foldl (fun rows relationship => rows.insert relationship.orderedKey relationship) ∅

def applyRelationshipOperation (rows : RelationshipRows)
    (operation : ValidatedRelationshipOperation) : Except StoreError RelationshipRows :=
  match operation with
  | .add state =>
    if state.orderedKey ∈ rows then .error (.constraintViolation "relationship_add_collision")
    else .ok (rows.insert state.orderedKey state)
  | .update change =>
    if orderKey change.key ∉ rows ∨ change.key ≠ change.newState.key then
      .error (.constraintViolation "relationship_change_reference")
    else .ok (rows.insert (orderKey change.key) change.newState)

def applyRelationshipOperations (rows : RelationshipRows)
    (operations : List ValidatedRelationshipOperation) : Except StoreError RelationshipRows :=
  operations.foldlM applyRelationshipOperation rows

/-! ### The narrative -/

def applyTransition (turnNumber : TurnNumber) (state : NarrativeRuntimeState)
    (transition : ProposedNarrativeTransition) : Except StoreError NarrativeRuntimeState :=
  if state.nodeState transition.nodeKey ≠ transition.kind.expectedFrom then .error .revisionConflict
  else .ok { state with
    nodeStates := state.nodeStates.insert transition.nodeKey transition.kind.target
    activationTurns :=
      if transition.kind.target = .active then
        state.activationTurns.insert transition.nodeKey turnNumber
      else state.activationTurns }

def pendingByKey (effects : List PendingNarrativeEffect) :
    BTreeMap AssetKey PendingNarrativeEffect :=
  effects.foldl (fun pending effect => pending.insert effect.effectId effect) ∅

def commitNarrative (spec : TurnCommitSpec) (state : NarrativeRuntimeState) :
    Except StoreError NarrativeRuntimeState := do
  let resolution := spec.changes.narrativeResolution
  if state.graphRevision ≠ spec.expectedGraphRevision then .error .revisionConflict
  else
    let state ← resolution.transitions.foldlM (applyTransition spec.turnNumber) state
    return { state with
      pendingEffects := pendingByKey resolution.pendingEffects
      graphRevision :=
        if resolution.transitions = [] then state.graphRevision
        else resolution.nextGraphRevision }

/-! ### Knowledge -/

def mergeKnowledgeUpdate : (existing value : KnowledgeEntry) → Except StoreError KnowledgeEntry
  | .fact old, .fact new => .ok (.fact { new with id := old.id, key := old.key })
  | .rumor old, .rumor new => .ok (.rumor { new with id := old.id, key := old.key })
  | .memory old, .memory new =>
    if old.owner ≠ new.owner then .error (.constraintViolation "knowledge_memory_owner_immutable")
    else .ok (.memory { new with id := old.id, owner := old.owner, createdAtMs := old.createdAtMs })
  | _, _ => .error (.constraintViolation "knowledge_update_kind_mismatch")

/-- Rows are found by kind and identifier, so an update of another kind finds none. -/
def applyKnowledgeOperation (rows : KnowledgeRows) :
    ValidatedKnowledgeOperation → Except StoreError KnowledgeRows
  | .add entry =>
    if entry.sourceId ∈ rows then .error .duplicateKey else .ok (rows.insert entry.sourceId entry)
  | .update target value => do
    let existing ← Result.okOr (if target.kind = value.kind then rows[target]? else none)
      (.constraintViolation "knowledge_update_target_missing")
    let merged ← mergeKnowledgeUpdate existing value
    return rows.insert target merged
  | .delete target =>
    if target.sourceId ∈ rows then .ok (rows.erase target.sourceId)
    else .error (.constraintViolation "knowledge_delete_target_missing")

def applyKnowledgeMutations (rows : KnowledgeRows) (mutations : List ValidatedKnowledgeMutation) :
    Except StoreError KnowledgeRows :=
  mutations.foldlM (fun rows mutation => applyKnowledgeOperation rows mutation.operation) rows

theorem mergeKnowledgeUpdate_sourceId {existing value merged : KnowledgeEntry}
    (ok : mergeKnowledgeUpdate existing value = .ok merged) :
    merged.sourceId = existing.sourceId := by
  unfold mergeKnowledgeUpdate at ok
  split at ok
  · cases ok
    rfl
  · cases ok
    rfl
  · split at ok
    · cases ok
    · cases ok
      rfl
  · cases ok

/-- Every entry is found under its own identifier. -/
def KnowledgeKeyed (rows : KnowledgeRows) : Prop :=
  ∀ (id : KnowledgeSourceId) (entry : KnowledgeEntry), rows[id]? = some entry → entry.sourceId = id

theorem applyKnowledgeOperation_keyed {rows next : KnowledgeRows}
    {operation : ValidatedKnowledgeOperation} (keyed : KnowledgeKeyed rows)
    (ok : applyKnowledgeOperation rows operation = .ok next) : KnowledgeKeyed next := by
  intro id entry found
  cases operation with
  | add added =>
    rw [applyKnowledgeOperation] at ok
    split at ok
    · cases ok
    · cases ok
      rw [OrdMap.get_insert] at found
      split at found
      · rename_i same
        cases found
        exact same
      · exact keyed id entry found
  | update target value =>
    obtain ⟨existing, known, ok⟩ := Result.bind_eq_ok ok
    obtain ⟨merged, mergedOk, ok⟩ := Result.bind_eq_ok ok
    cases ok
    rw [OrdMap.get_insert] at found
    split at found
    · rename_i same
      cases found
      have stored := Result.okOr_eq_ok.mp known
      split at stored
      · rw [mergeKnowledgeUpdate_sourceId mergedOk, keyed target existing stored]
        exact same
      · cases stored
    · exact keyed id entry found
  | delete target =>
    rw [applyKnowledgeOperation] at ok
    split at ok
    · cases ok
      rw [OrdMap.get_erase] at found
      split at found
      · cases found
      · exact keyed id entry found
    · cases ok

theorem applyKnowledgeMutations_keyed {rows next : KnowledgeRows}
    {mutations : List ValidatedKnowledgeMutation} (keyed : KnowledgeKeyed rows)
    (ok : applyKnowledgeMutations rows mutations = .ok next) : KnowledgeKeyed next :=
  Result.foldlM_invariant (P := KnowledgeKeyed)
    (fun keyed step => applyKnowledgeOperation_keyed keyed step) ok keyed

/-! ### Timed state -/

/-- What the rows of the entries say about activation. -/
def storedRules (knowledge : KnowledgeRows) : BTreeMap KnowledgeSourceId StoredRule :=
  knowledge.map fun _ entry => ⟨entry.kind, entry.activation.map (·.2)⟩

/-- The delta of the turn is applied, and then what no entry stands for is removed. -/
def commitTimedState (timed : TimedRows) (delta : PendingActivationStateDelta)
    (knowledge : KnowledgeRows) : Except StoreError TimedRows := do
  let applied ← (applyActivationStateDelta timed delta).mapError fun
    | .constraintViolation constraint => StoreError.constraintViolation constraint
  return reconcileActivationState applied (storedRules knowledge)

/-! ### Usage -/

/-- `checked_add` of `u64`. -/
def addUsage (limit : String) (total count : UInt64) : Except StoreError UInt64 :=
  if total.toNat + count.toNat < UInt64.size then .ok (total + count)
  else .error (.limitExceeded limit)

def addCall (aggregate : LlmUsageAggregate) (call : LlmCallUsage) :
    Except StoreError LlmUsageAggregate := do
  if aggregate.llmCalls.toNat + 1 < UInt32.size then
    let inputTokens ← addUsage "llm_input_tokens" aggregate.inputTokens call.inputTokens
    let outputTokens ← addUsage "llm_output_tokens" aggregate.outputTokens call.outputTokens
    let totalTokens ← addUsage "llm_total_tokens" aggregate.totalTokens call.totalTokens
    return { llmCalls := aggregate.llmCalls + 1, inputTokens, outputTokens, totalTokens }
  else .error (.limitExceeded "llm_calls")

def aggregateLlmUsage (calls : List LlmCallUsage) : Except StoreError LlmUsageAggregate :=
  calls.foldlM addCall ⟨0, 0, 0, 0⟩

/-! ### Events -/

/-- The inserts of the events, none of which may have an id that is there already. -/
def insertEvents (turnNumber : TurnNumber) (recorded : List StoryEvent) (events : List StoryEvent) :
    Except StoreError (List StoryEvent) :=
  events.foldlM (fun recorded event =>
    if event.turnNumber ≠ turnNumber then .error (.constraintViolation "event_turn_reference")
    else if event.id ∈ recorded.map (·.id) then .error .duplicateKey
    else .ok (recorded ++ [event])) recorded

theorem insertEvents_eq_ok {turnNumber : TurnNumber} {recorded events result : List StoryEvent}
    (ok : insertEvents turnNumber recorded events = .ok result) :
    result = recorded ++ events ∧ ∀ event ∈ events, event.turnNumber = turnNumber := by
  induction events generalizing recorded with
  | nil =>
    cases ok
    exact ⟨(List.append_nil _).symm, nofun⟩
  | cons event events ih =>
    obtain ⟨inserted, first, ok⟩ := Result.bind_eq_ok ok
    dsimp only at first
    split at first
    · cases first
    · rename_i same
      split at first
      · cases first
      · cases first
        obtain ⟨rfl, others⟩ := ih ok
        rw [not_not] at same
        refine ⟨by rw [List.append_assoc, List.singleton_append], ?_⟩
        exact List.forall_mem_cons.mpr ⟨same, others⟩

/-! ### Committing a turn -/

/-- The last sequence of a segment, or zero. -/
def lastSequence (segments : BTreeMap Nat StoredSegment) : Nat := segments.keys.foldl max 0

theorem le_lastSequence {segments : BTreeMap Nat StoredSegment} {sequence : Nat}
    (member : sequence ∈ segments) : sequence ≤ lastSequence segments := by
  have larger : ∀ (keys : List Nat) (start : Nat), start ≤ keys.foldl max start ∧
      ∀ key ∈ keys, key ≤ keys.foldl max start := by
    intro keys
    induction keys with
    | nil => exact fun start => ⟨le_refl start, nofun⟩
    | cons key keys ih =>
      intro start
      obtain ⟨above, each⟩ := ih (max start key)
      refine ⟨le_trans (le_max_left start key) above, List.forall_mem_cons.mpr ⟨?_, each⟩⟩
      exact le_trans (le_max_right start key) above
  exact (larger segments.keys 0).2 sequence (Std.ExtTreeMap.mem_keys.mpr member)

section
variable (uuids : UuidReader)

/-- What the transaction has found out before it writes. -/
structure CommitPlan (spec : TurnCommitSpec) (story : StoredStory) where
  follows : story.lastTurnNumber.get.toNat < spec.turnNumber.get.toNat
  sequence : { sequence : Nat // 0 < sequence ∧ sequence < 2 ^ 63 }
  committedRevision : UInt64
  roles : BTreeMap RoleId StoryRole
  relationships : List RelationshipState
  narrativeState : NarrativeRuntimeState
  result : CommittedTurnResult

/-- `checked_add(1)`. -/
def following (limit : String) (value : UInt64) : Except StoreError UInt64 :=
  if value.toNat + 1 < UInt64.size then .ok (value + 1) else .error (.limitExceeded limit)

theorem following_toNat {limit : String} {value next : UInt64}
    (ok : following limit value = .ok next) : next.toNat = value.toNat + 1 := by
  unfold following at ok
  split at ok
  · rename_i fits
    cases ok
    rw [UInt64.toNat_add, UInt64.toNat_one, Nat.mod_eq_of_lt fits]
  · cases ok

/-- The check that the turn is the next one. -/
def checkTurnNumber (spec : TurnCommitSpec) (story : StoredStory) : Except StoreError Unit := do
  let expected ← following "turn_number" story.lastTurnNumber.get
  if expected ≠ spec.turnNumber.get then .error .revisionConflict else .ok ⟨⟩

theorem checkTurnNumber_eq_ok {spec : TurnCommitSpec} {story : StoredStory} {checked : Unit}
    (ok : checkTurnNumber spec story = .ok checked) :
    spec.turnNumber.get.toNat = story.lastTurnNumber.get.toNat + 1 := by
  obtain ⟨expected, next, ok⟩ := Result.bind_eq_ok ok
  split at ok
  · cases ok
  · rename_i same
    rw [not_not] at same
    rw [← same, following_toNat next]

/-- `MAX(sequence) + 1`, which has to be an integer. -/
def nextSequenceOf (segments : BTreeMap Nat StoredSegment) :
    Except StoreError { sequence : Nat // 0 < sequence ∧ sequence < 2 ^ 63 } :=
  if fits : lastSequence segments + 1 < 2 ^ 63 then .ok ⟨_, Nat.succ_pos _, fits⟩
  else .error .unavailable

def commitRoles (story : StoredStory) (changes : ValidatedChangeSet) :
    Except StoreError (BTreeMap RoleId StoryRole) := do
  let roles ← Result.okOr ((storyRolesCodec uuids).decode story.rolesJson)
    (.serialization .invalidRoleState)
  let roles ← addNewRoles roles changes.newRoles
  applyRoleChanges roles changes.roleChanges

def commitRelationships (story : StoredStory) (changes : ValidatedChangeSet) :
    Except StoreError (List RelationshipState) := do
  let relationships ← Result.okOr (relationshipsCodec.decode story.relationshipsJson)
    (.serialization .invalidStoryState)
  return valuesOf (← applyRelationshipOperations (relationshipsByKey relationships)
    changes.relationshipOperations)

/-- The part of the transaction before its first write. -/
def planCommit (spec : TurnCommitSpec) (story : StoredStory) :
    Except StoreError (CommitPlan spec story) := do
  let base := spec.baseRevision
  if story.revision < 0 ∨ story.revision.toUInt64 ≠ base then .error .revisionConflict
  else
    let numbered ← Result.attach (checkTurnNumber spec story)
    let committedRevision ← following "story_revision" base
    let sequence ← nextSequenceOf story.segments
    let roles ← commitRoles uuids story spec.changes
    let relationships ← commitRelationships story spec.changes
    let state ← Result.okOr (narrativeRuntimeStateCodec.decode story.narrativeStateJson)
      (.serialization .invalidStoryState)
    let narrativeState ← commitNarrative spec state
    let llmUsage ← aggregateLlmUsage spec.llmCalls
    return {
      follows := by
        have next := checkTurnNumber_eq_ok numbered.2
        omega
      sequence
      committedRevision
      roles
      relationships
      narrativeState
      result := {
        turnNumber := spec.turnNumber
        storyRevision := committedRevision
        storyText := spec.changes.storyText.value
        llmUsage
        llmCalls := spec.llmCalls } }

/-- The row of `stories` with the constraints that are active after the turn. -/
def commitConstraints (story : StoredStory) (changes : ValidatedChangeSet) : Json :=
  match changes.constraintChange with
  | .unchanged => story.activeConstraintsJson
  | .replace active => activeConstraintsToJson active

/-- The number of the turn, as the column `last_turn_number` holds it. -/
def StoredCount.ofTurn (turn : TurnNumber) : StoredCount where
  get := turn.get
  fits := by
    have bound := turn.accepted.2
    omega

theorem turnsPast_append {story : StoredStory} {turn : StoredTurn} {number : TurnNumber}
    (follows : story.lastTurnNumber.get.toNat < number.get.toNat)
    (numbered : turn.turnNumber = number) :
    ∀ other ∈ story.turns ++ [turn], other.turnNumber.get.toNat ≤ (StoredCount.ofTurn number).get.toNat := by
  intro other member
  rcases List.mem_append.mp member with before | last
  · exact le_trans (story.turnsPast other before) (Nat.le_of_lt follows)
  · rw [List.mem_singleton.mp last, numbered]
    exact le_refl _

theorem eventsPast_insert {story : StoredStory} {events recorded : List StoryEvent}
    {number : TurnNumber} (follows : story.lastTurnNumber.get.toNat < number.get.toNat)
    (inserted : insertEvents number story.events events = .ok recorded) :
    ∀ event ∈ recorded, event.turnNumber.get.toNat ≤ (StoredCount.ofTurn number).get.toNat := by
  intro event member
  obtain ⟨rfl, numbered⟩ := insertEvents_eq_ok inserted
  rcases List.mem_append.mp member with before | added
  · exact le_trans (story.eventsPast event before) (Nat.le_of_lt follows)
  · rw [numbered event added]
    exact le_refl _

theorem mem_insert_segments {story : StoredStory} {sequence : Nat} {segment : StoredSegment}
    (fresh : 0 < sequence ∧ sequence < 2 ^ 63) :
    ∀ other ∈ story.segments.insert sequence segment, 0 < other ∧ other < 2 ^ 63 := by
  intro other member
  rcases Std.ExtTreeMap.mem_insert.mp member with same | before
  · rw [compare_eq_iff_eq] at same
    exact same ▸ fresh
  · exact story.sequenced other before

/-- The part of the transaction that writes. -/
def writeCommit {spec : TurnCommitSpec} {story : StoredStory} (plan : CommitPlan spec story) :
    Except StoreError StoredStory := do
  let knowledgeIdHighWater ← StoredCount.store spec.changes.knowledgeIdHighWater
  let roleIdHighWater ← StoredCount.store spec.changes.nextRoleIdHighWater
  if plan.committedRevision.toInt64 ≤ spec.baseRevision.toInt64 then .error .checkFailed
  else
    let recorded ← Result.attach
      (insertEvents spec.turnNumber story.events spec.changes.narrativeEvents)
    let known ← Result.attach
      (applyKnowledgeMutations story.knowledge spec.changes.knowledgeMutations)
    let timedState ← commitTimedState story.timedState spec.activationStateDelta known.1
    return { story with
      revision := plan.committedRevision.toInt64
      lastTurnNumber := StoredCount.ofTurn spec.turnNumber
      activeConstraintsJson := commitConstraints story spec.changes
      rolesJson := (storyRolesCodec uuids).encode plan.roles
      relationshipsJson := relationshipsCodec.encode plan.relationships
      narrativeStateJson := narrativeRuntimeStateCodec.encode plan.narrativeState
      knowledgeIdHighWater
      roleIdHighWater
      turns := story.turns ++
        [⟨spec.turnNumber, spec.idempotencyKey, spec.requestDigest, plan.result⟩]
      segments := story.segments.insert plan.sequence.1
        ⟨.turn spec.turnNumber, spec.changes.storyText.value⟩
      events := recorded.1
      knowledge := known.1
      timedState
      sequenced := mem_insert_segments plan.sequence.2
      turnsPast := turnsPast_append plan.follows rfl
      eventsPast := eventsPast_insert plan.follows recorded.2
      knowledgeKeyed := applyKnowledgeMutations_keyed story.knowledgeKeyed known.2 }

/-- `commit_turn`, with what it returns and the rows it leaves. A turn that was committed before is
answered again, and the rows stay as they are. -/
def commitTurn (spec : TurnCommitSpec) (story : StoredStory) :
    Except StoreError (CommittedTurnResult × StoredStory) :=
  if spec.storyId ≠ story.storyId then .error .notFound
  else match story.turns.find? (·.idempotencyKey = spec.idempotencyKey) with
  | some turn =>
    if turn.requestDigest = spec.requestDigest then .ok (turn.result, story)
    else .error .idempotencyConflict
  | none => do
    let plan ← planCommit uuids spec story
    let committed ← writeCommit uuids plan
    return (plan.result, committed)

/-! ### What a commit leaves -/

/-- The rows of `next` are those of `story` with the turn in them. -/
structure Commits (spec : TurnCommitSpec) (story next : StoredStory) : Prop where
  identity : next.storyId = story.storyId
  pack : next.pack = story.pack
  settings : next.settingsJson = story.settingsJson
  summary : next.storySummaryJson = story.storySummaryJson
  facts : next.factValuesJson = story.factValuesJson
  based : 0 ≤ story.revision ∧ story.revision.toUInt64 = spec.baseRevision
  revision : ∃ committed, following "story_revision" spec.baseRevision = .ok committed ∧
    next.revision = committed.toInt64 ∧ spec.baseRevision.toInt64 < committed.toInt64
  numbered : spec.turnNumber.get.toNat = story.lastTurnNumber.get.toNat + 1
  lastTurn : next.lastTurnNumber = StoredCount.ofTurn spec.turnNumber
  roles : ∃ roles, commitRoles uuids story spec.changes = .ok roles ∧
    next.rolesJson = (storyRolesCodec uuids).encode roles
  relationships : ∃ relationships, commitRelationships story spec.changes = .ok relationships ∧
    next.relationshipsJson = relationshipsCodec.encode relationships
  narrative : ∃ before after,
    narrativeRuntimeStateCodec.decode story.narrativeStateJson = some before ∧
      commitNarrative spec before = .ok after ∧
      next.narrativeStateJson = narrativeRuntimeStateCodec.encode after
  constrained : next.activeConstraintsJson = commitConstraints story spec.changes
  knowledge : applyKnowledgeMutations story.knowledge spec.changes.knowledgeMutations =
    .ok next.knowledge
  events : insertEvents spec.turnNumber story.events spec.changes.narrativeEvents = .ok next.events
  knowledgeHighWater : next.knowledgeIdHighWater.get = spec.changes.knowledgeIdHighWater
  roleHighWater : next.roleIdHighWater.get = spec.changes.nextRoleIdHighWater
  segments : ∃ sequence, nextSequenceOf story.segments = .ok sequence ∧
    next.segments = story.segments.insert sequence.1
      ⟨.turn spec.turnNumber, spec.changes.storyText.value⟩

theorem StoredCount.store_eq_ok {value : UInt64} {count : StoredCount}
    (stored : StoredCount.store value = .ok count) : count.get = value := by
  unfold StoredCount.store at stored
  split at stored
  · cases stored
    rfl
  · cases stored

variable {uuids} {spec : TurnCommitSpec} {story next : StoredStory}

theorem writeCommit_eq_ok {plan : CommitPlan spec story}
    (planned : planCommit uuids spec story = .ok plan)
    (written : writeCommit uuids plan = .ok next) :
    Commits uuids spec story next := by
  unfold planCommit at planned
  dsimp only at planned
  split at planned
  · cases planned
  · rename_i based
    rw [not_or, not_not] at based
    obtain ⟨numbered, _, planned⟩ := Result.bind_eq_ok planned
    obtain ⟨committedRevision, revised, planned⟩ := Result.bind_eq_ok planned
    obtain ⟨sequence, sequenced, planned⟩ := Result.bind_eq_ok planned
    obtain ⟨roles, rolesOk, planned⟩ := Result.bind_eq_ok planned
    obtain ⟨relationships, relationshipsOk, planned⟩ := Result.bind_eq_ok planned
    obtain ⟨before, read, planned⟩ := Result.bind_eq_ok planned
    obtain ⟨after, narrated, planned⟩ := Result.bind_eq_ok planned
    obtain ⟨usage, _, planned⟩ := Result.bind_eq_ok planned
    cases planned
    unfold writeCommit at written
    obtain ⟨knowledgeIdHighWater, knowledgeStored, written⟩ := Result.bind_eq_ok written
    obtain ⟨roleIdHighWater, roleStored, written⟩ := Result.bind_eq_ok written
    split at written
    · cases written
    · rename_i above
      obtain ⟨recorded, _, written⟩ := Result.bind_eq_ok written
      obtain ⟨known, _, written⟩ := Result.bind_eq_ok written
      obtain ⟨timedState, _, written⟩ := Result.bind_eq_ok written
      cases written
      exact {
        identity := rfl
        pack := rfl
        settings := rfl
        summary := rfl
        facts := rfl
        based := ⟨Int64.not_lt.mp based.1, based.2⟩
        revision := ⟨committedRevision, revised, rfl, Int64.not_le.mp above⟩
        numbered := checkTurnNumber_eq_ok numbered.2
        lastTurn := rfl
        roles := ⟨roles, rolesOk, rfl⟩
        relationships := ⟨relationships, relationshipsOk, rfl⟩
        narrative := ⟨before, after, Result.okOr_eq_ok.mp read, narrated, rfl⟩
        constrained := rfl
        knowledge := known.2
        events := recorded.2
        knowledgeHighWater := StoredCount.store_eq_ok knowledgeStored
        roleHighWater := StoredCount.store_eq_ok roleStored
        segments := ⟨sequence, sequenced, rfl⟩ }

/-- A turn that was not committed before is written. -/
theorem commitTurn_eq_ok {result : CommittedTurnResult}
    (fresh : story.turns.find? (·.idempotencyKey = spec.idempotencyKey) = none)
    (committed : commitTurn uuids spec story = .ok (result, next)) :
    Commits uuids spec story next := by
  unfold commitTurn at committed
  split at committed
  · cases committed
  · rw [fresh] at committed
    obtain ⟨plan, planned, committed⟩ := Result.bind_eq_ok committed
    obtain ⟨rows, written, committed⟩ := Result.bind_eq_ok committed
    cases committed
    exact writeCommit_eq_ok planned written

end

end Aise.Domain.Persistence
