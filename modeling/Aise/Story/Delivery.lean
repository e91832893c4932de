import Aise.Domain.Narrative.Delivery
import Aise.Lib.Outbox
import Aise.Story.Run

/-! Effects are delivered once. Over the turns of a story, what a transition causes waits in the
state that the transition is committed in, and the next turn disposes of it. -/
namespace Aise.Domain.Persistence

/-! ### One turn -/

theorem carriedEffects_eq {state : NarrativeRuntimeState} {caused : EffectOccurrence → Prop}
    {plan : ProjectedNarrativePlan} {resolution : NarrativeResolution} (waits : state.Waits caused)
    (disposed : plan.effectDispositions.map (·.effectId) = state.pendingEffects.keys) :
    carriedEffects state plan resolution = resolution.pendingEffects := by
  have delivered : (valuesOf state.pendingEffects).filter (fun pending =>
      pending.effectId ∉ plan.effectDispositions.map (·.effectId)) = [] := by
    rw [List.filter_eq_nil_iff]
    intro effect member
    obtain ⟨id, found⟩ := mem_valuesOf.mp member
    obtain ⟨occurrence, _, rfl, rfl⟩ := waits.only id effect found
    have among : occurrence.id state.graphRevision ∈ state.pendingEffects.keys :=
      Std.ExtTreeMap.mem_keys.mpr (OrdMap.mem_iff_exists.mpr ⟨_, found⟩)
    simpa [disposed, EffectOccurrence.effect] using among
  unfold carriedEffects
  dsimp only
  rw [delivered, List.nil_append]

theorem applyTransition_known {definition : NarrativeGraphDefinition} {number : TurnNumber}
    {transition : ProposedNarrativeTransition} {state next : NarrativeRuntimeState}
    (known : state.Known definition) (among : transition.nodeKey ∈ definition.nodes)
    (ok : applyTransition number state transition = .ok next) : next.Known definition := by
  have inserted : ∀ {V : Type} {map : BTreeMap AssetKey V} {value : V},
      (∀ key ∈ map, key ∈ definition.nodes) →
        ∀ key ∈ map.insert transition.nodeKey value, key ∈ definition.nodes := by
    intro V map value each key member
    rcases Std.ExtTreeMap.mem_insert.mp member with same | before
    · rw [compare_eq_iff_eq] at same
      exact same ▸ among
    · exact each key before
  unfold applyTransition at ok
  split at ok
  · cases ok
  · cases ok
    refine ⟨inserted known.nodes, ?_⟩
    dsimp only
    split
    · exact inserted known.turns
    · exact known.turns

theorem applyTransition_graphRevision {number : TurnNumber}
    {transition : ProposedNarrativeTransition} {state next : NarrativeRuntimeState}
    (ok : applyTransition number state transition = .ok next) :
    next.graphRevision = state.graphRevision := by
  unfold applyTransition at ok
  split at ok
  · cases ok
  · cases ok
    rfl

/-- The revision goes up by one with the transitions of a turn, if there are any. -/
structure Moves (transitions : List ProposedNarrativeTransition)
    (state after : NarrativeRuntimeState) : Prop where
  still : transitions = [] → after.graphRevision = state.graphRevision
  moved : transitions ≠ [] → after.graphRevision = state.graphRevision + 1

section
variable {around : Surroundings} {story next : StoredStory}

def StoryTurn.transitions (turn : StoryTurn around story next) : List ProposedNarrativeTransition :=
  turn.changes.narrativeResolution.transitions

/-- What a turn finds waiting is gone after it, and what its transitions cause waits. -/
theorem StoryTurn.moves (turn : StoryTurn around story next) {caused : EffectOccurrence → Prop}
    {after : NarrativeRuntimeState}
    (known : turn.snapshot.narrativeState.Known turn.snapshot.narrativeDefinition)
    (waits : turn.snapshot.narrativeState.Waits caused)
    (ok : commitNarrative turn.spec turn.snapshot.narrativeState = .ok after) :
    after.Known turn.snapshot.narrativeDefinition ∧
      after.Waits (CausedBy turn.snapshot.narrativeDefinition turn.transitions) ∧
      Moves turn.transitions turn.snapshot.narrativeState after := by
  obtain ⟨parts, state, resolution, from', sameSnapshot, sameProjection⟩ := turn.builtFrom
  have resolved := NarrativeResolutionInput.resolve_eq_ok from'.resolved
  have disposed := (NarrativeProjectionInput.project_eq_ok turn.projected).1
  have same : turn.transitions = resolution.transitions := from'.transitions
  have pending := from'.pending
  rw [sameSnapshot, sameProjection, carriedEffects_eq waits disposed] at pending
  have made := resolved.pending
  have revision := from'.revision.trans resolved.revision
  have among := resolved.known
  simp only [resolutionInput, sameSnapshot] at made among revision
  rw [← same] at made among
  unfold commitNarrative at ok
  rw [turn.committing] at ok
  dsimp only at ok
  split at ok
  · cases ok
  · obtain ⟨moved, applied, ok⟩ := Result.bind_eq_ok ok
    cases ok
    have keeps : moved.graphRevision = turn.snapshot.narrativeState.graphRevision :=
      Result.foldlM_invariant
        (P := fun state => state.graphRevision = turn.snapshot.narrativeState.graphRevision)
        (fun held step => (applyTransition_graphRevision step).trans held) applied rfl
    have knows : moved.Known turn.snapshot.narrativeDefinition :=
      Result.foldlM_invariant_mem
        (P := NarrativeRuntimeState.Known turn.snapshot.narrativeDefinition)
        (fun held member step => applyTransition_known held (among _ member) step) applied known
    have moves : Moves turn.transitions turn.snapshot.narrativeState
        { moved with
          pendingEffects := pendingByKey turn.changes.narrativeResolution.pendingEffects
          graphRevision := if turn.changes.narrativeResolution.transitions = [] then
            moved.graphRevision else turn.changes.narrativeResolution.nextGraphRevision } := by
      constructor
      · intro none
        exact (if_pos none).trans keeps
      · intro some
        exact (if_neg some).trans revision
    obtain ⟨only, all⟩ := waits_insertAll turn.changes.narrativeResolution.pendingEffects
      (turn.snapshot.narrativeState.graphRevision + 1)
      (CausedBy turn.snapshot.narrativeDefinition turn.transitions) (fun _ => False) ∅ (by
        rw [pending]
        exact made)
      (fun id effect found => by
        rw [Std.ExtTreeMap.getElem?_empty] at found
        cases found)
      (fun _ impossible => impossible.elim)
    refine ⟨⟨knows.nodes, knows.turns⟩, ⟨fun id effect found => ?_, fun occurrence caused => ?_⟩, moves⟩
    · obtain ⟨occurrence, impossible | causes, rest⟩ := only id effect found
      · exact impossible.elim
      · have stepped := moves.moved (List.ne_nil_of_mem causes.2)
        refine ⟨occurrence, causes, ?_⟩
        rw [stepped]
        exact rest
    · rw [moves.moved (List.ne_nil_of_mem caused.2)]
      exact all occurrence (.inr caused)

/-- The events of the turn that are told for the effect. -/
def StoryTurn.eventsFor (turn : StoryTurn around story next) (id : AssetKey) : List StoryEvent :=
  ((turn.projection.plan.worldEventIntents.zip turn.changes.narrativeEvents).filter
    (·.1.effectId = id)).map (·.2)

/-- Every intent of the projection has its event. -/
theorem StoryTurn.tells (turn : StoryTurn around story next) :
    List.Forall₂ (fun intent event => event.payload = intent.payload)
      turn.projection.plan.worldEventIntents turn.changes.narrativeEvents := by
  obtain ⟨parts, state, resolution, from', _, sameProjection⟩ := turn.builtFrom
  have each := Result.mapM_eq_ok from'.events
  rw [sameProjection] at each
  rw [← List.zipIdx_map_fst 0 turn.projection.plan.worldEventIntents]
  exact List.forall₂_map_left_iff.mpr (each.imp fun _ _ made => (makeEvent_eq_ok made).2)

theorem filter_zip_payloads {intents : List WorldEventIntent} {events : List StoryEvent}
    (told : List.Forall₂ (fun intent event => event.payload = intent.payload) intents events)
    (id : AssetKey) :
    (((intents.zip events).filter (·.1.effectId = id)).map (·.2)).map (·.payload) =
      (intents.filter (·.effectId = id)).map (·.payload) := by
  induction told with
  | nil => rfl
  | cons here _ ih =>
    rw [List.zip_cons_cons, List.filter_cons, List.filter_cons]
    split
    · rw [List.map_cons, List.map_cons, List.map_cons, ih, here]
    · exact ih

/-- The events of an effect are those of what waits under its identifier. -/
theorem StoryTurn.eventsFor_payloads (turn : StoryTurn around story next) (id : AssetKey) :
    (turn.eventsFor id).map (·.payload) =
      (turn.snapshot.narrativeState.pendingEffects[id]?.bind fun effect =>
        worldEventOf turn.projectedTurn (id, effect)).toList.map (·.payload) := by
  have intents := (NarrativeProjectionInput.project_eq_ok turn.projected).2
  rw [StoryTurn.eventsFor, filter_zip_payloads turn.tells id, intents]
  exact congrArg _ (filter_worldEvents _ _ _)

theorem StoryTurn.count_dispositions (turn : StoryTurn around story next) (id : AssetKey) :
    (turn.projection.plan.effectDispositions.map (·.effectId)).count id =
      if id ∈ turn.snapshot.narrativeState.pendingEffects then 1 else 0 := by
  rw [(NarrativeProjectionInput.project_eq_ok turn.projected).1]
  have once := Std.ExtTreeMap.nodup_keys (t := turn.snapshot.narrativeState.pendingEffects)
  exact once.count.trans (if_congr Std.ExtTreeMap.mem_keys rfl rfl)

/-! ### The state of the narrative -/

/-- The state of the narrative, as its column is read. -/
def StoredStory.narrativeState (story : StoredStory) : NarrativeRuntimeState :=
  (narrativeRuntimeStateCodec.decode story.narrativeStateJson).getD {}

/-- The column holds a state of the graph in which the effects of these occurrences wait. -/
structure Narrates (story : StoredStory) (caused : EffectOccurrence → Prop) : Prop where
  written : story.narrativeStateJson = narrativeRuntimeStateCodec.encode story.narrativeState
  stored : narrativeRuntimeStateCodec.decode story.narrativeStateJson = some story.narrativeState
  known : story.narrativeState.Known story.pack.narrativeDefinition
  waits : story.narrativeState.Waits caused
  revision : story.narrativeState.graphRevision.toNat ≤ story.lastTurnNumber.get.toNat + 1
  placed : ∀ occurrence, caused occurrence → occurrence.From story.pack.narrativeDefinition

/-- The revision is far from its end. -/
theorem Narrates.lt_moved {caused : EffectOccurrence → Prop}
    {transitions : List ProposedNarrativeTransition} {after : NarrativeRuntimeState}
    (narrates : Narrates story caused) (moves : Moves transitions story.narrativeState after)
    (some : transitions ≠ []) :
    story.narrativeState.graphRevision.toNat < after.graphRevision.toNat := by
  have bound := narrates.revision
  have fits := story.lastTurnNumber.fits
  rw [moves.moved some, UInt64.toNat_add, UInt64.toNat_one]
  omega

theorem narrates_of_encode {caused : EffectOccurrence → Prop} {state : NarrativeRuntimeState}
    (stored : story.narrativeStateJson = narrativeRuntimeStateCodec.encode state)
    (known : state.Known story.pack.narrativeDefinition) (waits : state.Waits caused)
    (revision : state.graphRevision.toNat ≤ story.lastTurnNumber.get.toNat + 1)
    (placed : ∀ occurrence, caused occurrence → occurrence.From story.pack.narrativeDefinition) :
    Narrates story caused ∧ story.narrativeState = state := by
  have storable := storable_of_waits story.pack.storable known waits placed
  have read : narrativeRuntimeStateCodec.decode story.narrativeStateJson = some state := by
    rw [stored]
    exact narrativeRuntimeStateCodec.back (narrativeRuntimeState_readable_iff.mpr storable)
  have same : story.narrativeState = state := by
    rw [StoredStory.narrativeState, read]
    rfl
  rw [← same] at stored read known waits revision
  exact ⟨⟨stored, read, known, waits, revision, placed⟩, same⟩

/-- A new story has the state that the bootstrap has found. -/
theorem Foundation.narrates {foundation : Foundation} {start : StoredStory}
    (created : foundation.create around = .ok start) :
    (∃ view, bootstrapNarrativeState start.pack.narrativeDefinition view
      foundation.narrativeLimits = .ok start.narrativeState) ∧
    Narrates start (CausedAtStart start.pack.narrativeDefinition start.narrativeState) := by
  obtain ⟨spec, from', starts⟩ := Foundation.create_eq_ok created
  have bootstrapped := from'.narrative
  rw [← foundation.stored.narrated, ← starts.pack] at bootstrapped
  have begun := bootstrap_begun bootstrapped
  obtain ⟨narrates, same⟩ := narrates_of_encode starts.narrative begun.known begun.waits
    (begun.revision.trans (Nat.le_add_left 1 _)) fun _ caused => caused.1
  rw [same]
  exact ⟨⟨_, bootstrapped⟩, narrates⟩

theorem StoryTurn.snapshot_narrativeState (turn : StoryTurn around story next) :
    turn.snapshot.narrativeState = story.narrativeState := by
  rw [StoredStory.narrativeState, turn.shows.narrative]
  rfl

theorem StoryTurn.narrates (turn : StoryTurn around story next) {caused : EffectOccurrence → Prop}
    (narrates : Narrates story caused) :
    Narrates next (CausedBy story.pack.narrativeDefinition turn.transitions) ∧
      Moves turn.transitions story.narrativeState next.narrativeState ∧
      commitNarrative turn.spec story.narrativeState = .ok next.narrativeState := by
  obtain ⟨before, after, read, narrated, stored⟩ := turn.commits.narrative
  have commits := turn.commits
  have definition := turn.shows.definition
  have state := turn.snapshot_narrativeState
  cases narrates.stored.symm.trans read
  rw [← state] at narrated
  obtain ⟨known, waits, moves⟩ := turn.moves (by rw [state, definition]; exact narrates.known)
    (by rw [state]; exact narrates.waits) narrated
  rw [definition] at known waits
  rw [state] at moves
  have revision : after.graphRevision.toNat ≤ next.lastTurnNumber.get.toNat + 1 := by
    have bound := narrates.revision
    have fits := story.lastTurnNumber.fits
    have numbered := commits.numbered
    rw [commits.lastTurn, StoredCount.ofTurn]
    dsimp only
    by_cases quiet : turn.transitions = []
    · rw [moves.still quiet]
      omega
    · rw [moves.moved quiet, UInt64.toNat_add, UInt64.toNat_one]
      omega
  have placed : ∀ occurrence, CausedBy story.pack.narrativeDefinition turn.transitions occurrence →
      occurrence.From next.pack.narrativeDefinition := by
    rw [commits.pack]
    exact fun _ caused => caused.1
  obtain ⟨narratesNext, same⟩ := narrates_of_encode stored (by rw [commits.pack]; exact known)
    waits revision placed
  rw [state] at narrated
  rw [same]
  exact ⟨narratesNext, moves, narrated⟩

/-! ### The turns of a story -/

namespace History
variable {start : StoredStory} (history : History around start)

def state (n : Nat) : NarrativeRuntimeState := (history.story n).narrativeState

/-- The effects of what is activated with the creation, or of the transitions of the turn that
leaves the state. -/
def Caused : Nat → EffectOccurrence → Prop
  | 0, occurrence => CausedAtStart start.pack.narrativeDefinition (history.state 0) occurrence
  | n + 1, occurrence => ∃ inside : n < history.length,
      CausedBy start.pack.narrativeDefinition (history.turn n inside).transitions occurrence

def identifier (n : Nat) (occurrence : EffectOccurrence) : AssetKey :=
  occurrence.id (history.state n).graphRevision

/-- The effect waits in the state it is committed in and in no other, the turn on that state
disposes of it and tells it if it is an event, and no other effect has its identifier. -/
structure Delivers (n : Nat) (occurrence : EffectOccurrence) : Prop where
  waits : (history.state n).pendingEffects[history.identifier n occurrence]? =
    some (occurrence.effect (history.state n).graphRevision)
  once : ∀ m ≤ history.length,
    history.identifier n occurrence ∈ (history.state m).pendingEffects → m = n
  disposed : ∀ (m : Nat) (inside : m < history.length),
    ((history.turn m inside).projection.plan.effectDispositions.map (·.effectId)).count
      (history.identifier n occurrence) = if m = n then 1 else 0
  told : ∀ (m : Nat) (inside : m < history.length),
    ((history.turn m inside).eventsFor (history.identifier n occurrence)).map (·.payload) =
      if m = n then (occurrence.worldEvent (history.state n).graphRevision).toList.map (·.payload)
      else []
  named : ∀ m other, history.Caused m other →
    history.identifier m other = history.identifier n occurrence → m = n ∧ other = occurrence

structure DeliversOnce : Prop where
  each : ∀ n occurrence, history.Caused n occurrence → history.Delivers n occurrence
  /-- The events of a turn are one for each intent, and they are added to those that are stored. -/
  recorded : ∀ (n : Nat) (inside : n < history.length),
    (history.turn n inside).changes.narrativeEvents.length =
        (history.turn n inside).projection.plan.worldEventIntents.length ∧
      (history.story (n + 1)).events =
        (history.story n).events ++ (history.turn n inside).changes.narrativeEvents

variable {history}

theorem Caused.inside {n : Nat} {occurrence : EffectOccurrence}
    (caused : history.Caused n occurrence) : n ≤ history.length := by
  cases n with
  | zero => exact Nat.zero_le _
  | succ n => exact caused.1

theorem Caused.placed {n : Nat} {occurrence : EffectOccurrence}
    (caused : history.Caused n occurrence) : occurrence.From start.pack.narrativeDefinition := by
  cases n with
  | zero => exact caused.1
  | succ n => exact caused.2.1

/-- What is caused depends on the transition only. -/
theorem Caused.of_same {n : Nat} {occurrence other : EffectOccurrence}
    (caused : history.Caused n occurrence) (placed : other.From start.pack.narrativeDefinition)
    (node : other.node = occurrence.node) (kind : other.kind = occurrence.kind) :
    history.Caused n other := by
  cases n with
  | zero => exact ⟨placed, kind.trans caused.2.1, by rw [node]; exact caused.2.2⟩
  | succ n =>
    obtain ⟨inside, _, among⟩ := caused
    have same : other.transition = occurrence.transition := by
      rw [EffectOccurrence.transition, EffectOccurrence.transition, node, kind]
    exact ⟨inside, placed, by rw [same]; exact among⟩

section
variable {foundation : Foundation} (created : foundation.create around = .ok start)
include created

theorem narrates (n : Nat) (inside : n ≤ history.length) :
    Narrates (history.story n) (history.Caused n) := by
  induction n with
  | zero =>
    have first : ∀ story, story = start → Narrates story
        (CausedAtStart start.pack.narrativeDefinition story.narrativeState) := by
      rintro _ rfl
      exact (Foundation.narrates created).2
    exact first _ history.begins
  | succ n ih =>
    have narrates := ((history.turn n inside).narrates (ih (Nat.le_of_succ_le inside))).1
    rw [(history.runs n (Nat.le_of_succ_le inside)).pack_eq] at narrates
    have same : history.Caused (n + 1) = CausedBy start.pack.narrativeDefinition
        (history.turn n inside).transitions := by
      funext occurrence
      exact propext ⟨fun caused => caused.2, fun causes => ⟨inside, causes⟩⟩
    rw [same]
    exact narrates

theorem mem_pendingEffects_iff {n : Nat} (inside : n ≤ history.length) {id : AssetKey} :
    id ∈ (history.state n).pendingEffects ↔
      ∃ occurrence, history.Caused n occurrence ∧ history.identifier n occurrence = id := by
  have waits := (narrates created n inside).waits
  constructor
  · intro member
    obtain ⟨effect, found⟩ := OrdMap.mem_iff_exists.mp member
    obtain ⟨occurrence, caused, _, same⟩ := waits.only id effect found
    exact ⟨occurrence, caused, same.symm⟩
  · rintro ⟨occurrence, caused, rfl⟩
    exact waits.all occurrence caused

/-- The revision of the graph tells the states apart in which something waits. -/
theorem stamped : Outbox.Stamped (fun n id => id ∈ (history.state n).pendingEffects)
    (fun n => (history.state n).graphRevision.toNat) history.length where
  stamped n m id inside insideToo first second := by
    obtain ⟨_, _, same⟩ := (mem_pendingEffects_iff created inside).mp first
    obtain ⟨_, _, sameToo⟩ := (mem_pendingEffects_iff created insideToo).mp second
    have revisions := (narrativeEffectId_inj (same.trans sameToo.symm)).2.2.1
    exact congrArg UInt64.toNat revisions
  advances n inside := by
    have narrates := narrates created n (Nat.le_of_lt inside)
    have moves := ((history.turn n inside).narrates narrates).2.1
    by_cases quiet : (history.turn n inside).transitions = []
    · exact ge_of_eq (congrArg UInt64.toNat (moves.still quiet))
    · exact le_of_lt (narrates.lt_moved moves quiet)
  filled n inside id waits := by
    have narrates := narrates created n (Nat.le_of_lt inside)
    have moves := ((history.turn n inside).narrates narrates).2.1
    obtain ⟨_, ⟨_, _, among⟩, _⟩ := (mem_pendingEffects_iff created inside).mp waits
    exact narrates.lt_moved moves (List.ne_nil_of_mem among)

/-- As long as every index fits, an identifier tells the effect and the state. -/
theorem identified (fits : ∀ n occurrence, history.Caused n occurrence →
    occurrence.index < UInt32.size) {n m : Nat} {occurrence other : EffectOccurrence}
    (caused : history.Caused n occurrence) (causedToo : history.Caused m other)
    (same : history.identifier m other = history.identifier n occurrence) :
    m = n ∧ other = occurrence := by
  have waits := (mem_pendingEffects_iff created caused.inside).mpr ⟨occurrence, caused, rfl⟩
  have waitsToo := (mem_pendingEffects_iff created causedToo.inside).mpr ⟨other, causedToo, rfl⟩
  rw [same] at waitsToo
  exact ⟨(stamped created).unique causedToo.inside caused.inside waitsToo waits,
    (EffectOccurrence.eq_of_id_eq causedToo.placed caused.placed (fits m other causedToo)
      (fits n occurrence caused) same).1⟩

theorem delivers (fits : ∀ n occurrence, history.Caused n occurrence →
    occurrence.index < UInt32.size) {n : Nat} {occurrence : EffectOccurrence}
    (caused : history.Caused n occurrence) : history.Delivers n occurrence := by
  have waits := (narrates created n caused.inside).waits
  have among := waits.all occurrence caused
  have found : (history.state n).pendingEffects[history.identifier n occurrence]? =
      some (occurrence.effect (history.state n).graphRevision) := by
    obtain ⟨effect, found⟩ := OrdMap.mem_iff_exists.mp among
    obtain ⟨other, causedToo, rfl, same⟩ := waits.only _ effect found
    obtain ⟨_, rfl⟩ := identified created fits caused causedToo same.symm
    exact found
  have once : ∀ m ≤ history.length,
      history.identifier n occurrence ∈ (history.state m).pendingEffects → m = n :=
    fun m inside member => (stamped created).unique inside caused.inside member among
  refine ⟨found, once, fun m inside => ?_, fun m inside => ?_,
    fun m other causedToo same => identified created fits caused causedToo same⟩
  · rw [(history.turn m inside).count_dispositions, StoryTurn.snapshot_narrativeState]
    refine if_congr ⟨once m (Nat.le_of_lt inside), ?_⟩ rfl rfl
    rintro rfl
    exact among
  · rw [(history.turn m inside).eventsFor_payloads, StoryTurn.snapshot_narrativeState]
    split
    · rename_i here
      subst here
      have stored : (history.story m).narrativeState.pendingEffects[
        history.identifier m occurrence]? = _ := found
      rw [stored, Option.bind_some]
      exact congrArg (fun told => told.toList.map (·.payload)) worldEventOf_effect
    · rename_i elsewhere
      have absent : (history.story m).narrativeState.pendingEffects[
          history.identifier n occurrence]? = none :=
        Std.ExtTreeMap.getElem?_eq_none fun member =>
          elsewhere (once m (Nat.le_of_lt inside) member)
      rw [absent]
      rfl

/-- Over every run, effects are delivered once just when the index of every one that the run causes
fits, which it does as long as no node has more than `2 ^ 32` effects for a transition. -/
theorem deliversOnce_iff : ((∀ (key : AssetKey) (node : NarrativeNodeDefinition)
      (kind : NarrativeTransitionKind), start.pack.narrativeDefinition.nodes[key]? = some node →
        (node.effects.on kind).length ≤ UInt32.size) → history.DeliversOnce) ∧
    (history.DeliversOnce ↔
      ∀ n occurrence, history.Caused n occurrence → occurrence.index < UInt32.size) := by
  have enough : (∀ n occurrence, history.Caused n occurrence →
      occurrence.index < UInt32.size) → history.DeliversOnce := by
    intro fits
    refine ⟨fun n occurrence caused => delivers created fits caused, fun n inside => ?_⟩
    have recorded := (insertEvents_eq_ok (history.turn n inside).commits.events).1
    rw [(history.turn n inside).committing] at recorded
    exact ⟨(history.turn n inside).tells.length_eq.symm, recorded⟩
  refine ⟨fun short => enough fun n occurrence caused => ?_, fun once n occurrence caused => ?_,
    enough⟩
  · obtain ⟨node, known, placed⟩ := caused.placed
    obtain ⟨inside, _⟩ := List.getElem?_eq_some_iff.mp placed
    exact inside.trans_le (short _ node _ known)
  · obtain ⟨other, placed, node, kind, index, same⟩ := caused.placed.wrapped
    have causedToo := caused.of_same placed node kind
    have alike := ((once.each n occurrence caused).named n other causedToo (same _)).2
    rw [← alike, index]
    exact Nat.mod_lt _ (by decide)

/-- An index that does not fit comes after so many that do, and each of these effects waits. -/
theorem size_le_pendingEffects {n : Nat} {occurrence : EffectOccurrence}
    (caused : history.Caused n occurrence) (large : UInt32.size ≤ occurrence.index) :
    UInt32.size ≤ (history.state n).pendingEffects.size := by
  obtain ⟨node, known, placed⟩ := caused.placed
  obtain ⟨inside, _⟩ := List.getElem?_eq_some_iff.mp placed
  let early (index : Nat) : EffectOccurrence := ⟨occurrence.node, occurrence.kind, index,
    (node.effects.on occurrence.kind)[index]?.getD occurrence.definition⟩
  have from' : ∀ index < UInt32.size, (early index).From start.pack.narrativeDefinition := by
    intro index small
    have before := (small.trans_le large).trans inside
    refine ⟨node, known, ?_⟩
    dsimp only [early]
    rw [List.getElem?_eq_getElem before]
    rfl
  have waits : ∀ index < UInt32.size,
      history.identifier n (early index) ∈ (history.state n).pendingEffects := by
    intro index small
    exact (narrates created n caused.inside).waits.all _
      (caused.of_same (from' index small) rfl rfl)
  have distinct : ∀ index < UInt32.size, ∀ other < UInt32.size,
      history.identifier n (early index) = history.identifier n (early other) → index = other := by
    intro index small other smallToo same
    have alike := EffectOccurrence.eq_of_id_eq (from' index small) (from' other smallToo) small
      smallToo same
    exact congrArg EffectOccurrence.index alike.1
  exact OrdMap.le_size_of_injOn waits distinct

/-- Effects are delivered once in every run of a story for which the database has room: it has none
for a state in which an effect waits whose index does not fit. -/
theorem effects_delivered_once (fits : ∀ n ≤ history.length, (history.story n).Fits) :
    history.DeliversOnce := by
  refine (deliversOnce_iff created).2.mpr fun n occurrence caused => ?_
  by_contra large
  have waiting := size_le_pendingEffects created caused (Nat.not_lt.mp large)
  have text := size_pendingEffects_le (history.state n)
  have column : (history.story n).narrativeStateJson ∈ (history.story n).columns := by
    simp [StoredStory.columns]
  have room := fits n caused.inside _ column
  rw [(narrates created n caused.inside).written] at room
  have least : UInt32.size ≤ maxValueBytes := (waiting.trans text).trans room
  exact absurd least (by decide)

end

end History

end

namespace Delivery.Sample
open Run.Sample

def belfry : AssetKey := ⟨"belfry"⟩

def bell : NarrativeEffectDefinition :=
  .worldEvent belfry ⟨"sound"⟩ [] none ⟨"The bell rings."⟩

/-- A belfry that is active from the start, where the bell rings. -/
def tower : NarrativeNodeDefinition where
  activateWhen := .storyStarted
  completeWhen := .not .storyStarted
  effects := { onActivate := [bell] }

def bells : NarrativeGraphDefinition where
  entryNodes := [belfry]
  nodes := (∅ : BTreeMap AssetKey NarrativeNodeDefinition).insert belfry tower

theorem get_bells {key : AssetKey} {node : NarrativeNodeDefinition}
    (found : bells.nodes[key]? = some node) : key = belfry ∧ node = tower := by
  rw [bells, OrdMap.get_insert] at found
  split at found
  · rename_i same
    exact ⟨same.symm, (Option.some.inj found).symm⟩
  · rw [Std.ExtTreeMap.getElem?_empty] at found
    cases found

theorem bells_storable : bells.Storable where
  keyed key member := by
    obtain ⟨node, found⟩ := OrdMap.mem_iff_exists.mp member
    rw [(get_bells found).1]
    decide +kernel
  effects key node found effect member := by
    rw [(get_bells found).2, tower, List.append_nil, List.mem_singleton] at member
    rw [member]
    exact ⟨by decide +kernel, fun _ impossible => absurd impossible List.not_mem_nil,
      fun _ impossible => absurd impossible (Option.not_mem_none _)⟩

def ringing : Foundation := foundation bells bells_storable ∅

/-- The bell of a story rings once, and once only. -/
theorem single_ring_delivered : ∃ (start : StoredStory) (history : History around start),
    ringing.create around = .ok start ∧ history.length = 1 ∧ history.DeliversOnce := by
  obtain ⟨start, next, created, turn, _, checked⟩ := played_eq ringing {} {}
    (fun played => decide (played.start.Fits ∧ played.next.Fits)) (by decide +kernel)
  obtain ⟨startFits, nextFits⟩ := of_decide_eq_true checked
  refine ⟨start, .single turn, created, rfl,
    History.effects_delivered_once created fun n inside => ?_⟩
  cases n with
  | zero => exact startFits
  | succ n => exact nextFits

end Delivery.Sample

end Aise.Domain.Persistence
