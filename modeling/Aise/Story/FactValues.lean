import Aise.Story.Course
import Aise.Turn.Enrichment

/-! The values of facts that conditions see. They are a column of the story that no turn writes, so
they stay empty, while propositions are part of the facts that are stored. -/
namespace Aise.Domain.Persistence
open SerdeJson

/-! ### Facts with a proposition -/

/-- The operation replaces an entry. -/
def Updates (operation : ValidatedKnowledgeOperation) (id : KnowledgeSourceId) : Prop :=
  ∃ value, operation = .update id value

/-- One of the turns has replaced the entry. -/
def Updated {around : Surroundings} (moves : List (Move around)) (id : KnowledgeSourceId) : Prop :=
  ∃ move ∈ moves, ∃ mutation ∈ move.turn.changes.knowledgeMutations, Updates mutation.operation id

section
variable {rows next : KnowledgeRows} {id : KnowledgeSourceId} {fact : WorldFact}

/-- A merged fact has the proposition of the new value. -/
theorem mergeKnowledgeUpdate_fact {existing value : KnowledgeEntry}
    (ok : mergeKnowledgeUpdate existing value = .ok (.fact fact)) :
    ∃ new : WorldFact, value = .fact new ∧ fact.proposition = new.proposition := by
  unfold mergeKnowledgeUpdate at ok
  split at ok
  · rename_i old new
    cases ok
    exact ⟨new, rfl, rfl⟩
  · cases ok
  · split at ok
    · cases ok
    · cases ok
  · cases ok

/-- A fact with a proposition is there after an operation if it was, and was not updated. -/
theorem applyKnowledgeOperation_stated {operation : ValidatedKnowledgeOperation}
    (keyed : KnowledgeKeyed rows) (ok : applyKnowledgeOperation rows operation = .ok next)
    (unstated : ∀ fact, operation.entry = some (.fact fact) → fact.proposition = none)
    (stated : fact.proposition ≠ none) :
    next[id]? = some (.fact fact) ↔ rows[id]? = some (.fact fact) ∧ ¬Updates operation id := by
  cases operation with
  | add entry =>
    have kept : ¬Updates (.add entry) id := fun updated => by
      obtain ⟨value, same⟩ := updated
      cases same
    rw [applyKnowledgeOperation] at ok
    split at ok
    · cases ok
    · rename_i absent
      cases ok
      rw [OrdMap.get_insert]
      split
      · rename_i same
        subst same
        refine iff_of_false ?_ fun found => absent ?_
        · intro found
          exact stated (unstated fact (congrArg some (Option.some.inj found)))
        · rw [OrdMap.mem_iff_exists]
          exact ⟨_, found.1⟩
      · simp [kept]
  | update target value =>
    obtain ⟨existing, known, ok⟩ := Result.bind_eq_ok ok
    obtain ⟨merged, mergedOk, ok⟩ := Result.bind_eq_ok ok
    cases ok
    rw [OrdMap.get_insert]
    split
    · rename_i same
      subst same
      refine iff_of_false ?_ fun found => found.2 ⟨value, rfl⟩
      intro found
      cases found
      obtain ⟨new, rfl, same⟩ := mergeKnowledgeUpdate_fact mergedOk
      exact stated (same.trans (unstated new rfl))
    · rename_i other
      have kept : ¬Updates (.update target value) id := fun updated => by
        obtain ⟨_, same⟩ := updated
        cases same
        exact other rfl
      simp [kept]
  | delete target =>
    have kept : ¬Updates (.delete target) id := fun updated => by
      obtain ⟨value, same⟩ := updated
      cases same
    rw [applyKnowledgeOperation] at ok
    split at ok
    · cases ok
      rw [OrdMap.get_erase]
      split
      · rename_i same
        subst same
        refine iff_of_false (Option.some_ne_none _).symm fun found => ?_
        have named := congrArg KnowledgeSourceId.kind (keyed _ _ found.1)
        rw [KnowledgeEntry.sourceId, fact.id.2] at named
        cases target with
        | rumor id => exact absurd (named.trans id.2) (by decide)
        | memory id => exact absurd (named.trans id.2) (by decide)
      · simp [kept]
    · cases ok

theorem applyKnowledgeMutations_stated {mutations : List ValidatedKnowledgeMutation}
    (keyed : KnowledgeKeyed rows) (ok : applyKnowledgeMutations rows mutations = .ok next)
    (unstated : ∀ mutation ∈ mutations, ∀ fact, mutation.operation.entry = some (.fact fact) →
      fact.proposition = none)
    (stated : fact.proposition ≠ none) :
    next[id]? = some (.fact fact) ↔
      rows[id]? = some (.fact fact) ∧ ∀ mutation ∈ mutations, ¬Updates mutation.operation id := by
  induction mutations generalizing rows with
  | nil =>
    cases ok
    simp
  | cons mutation mutations ih =>
    obtain ⟨between, first, ok⟩ := Result.bind_eq_ok ok
    obtain ⟨own, others⟩ := List.forall_mem_cons.mp unstated
    rw [ih (applyKnowledgeOperation_keyed keyed first) ok others,
      applyKnowledgeOperation_stated keyed first own stated, List.forall_mem_cons, and_assoc]

end

section
variable {around : Surroundings} {start story next : StoredStory}

/-- No fact that a turn writes has a proposition. -/
theorem StoryTurn.unstated (turn : StoryTurn around story next) :
    ∀ mutation ∈ turn.changes.knowledgeMutations, ∀ fact,
      mutation.operation.entry = some (.fact fact) → fact.proposition = none := by
  intro mutation member fact writes
  obtain ⟨parts, state, resolution, from', _⟩ := turn.builtFrom
  have stated := buildStateParts_eq_ok from'.built
  obtain ⟨known, allocation, _, _, operations, enriched⟩ :=
    enrichExtractedKnowledge_eq_ok stated.knowledge
  rw [from'.mutations] at member
  have among := List.mem_map_of_mem (f := (·.operation)) member
  rw [operations] at among
  exact enriched.unstated among writes

theorem CommittedTurn.unstated (turn : CommittedTurn around story next) :
    ∀ mutation ∈ turn.changes.knowledgeMutations, ∀ fact,
      mutation.operation.entry = some (.fact fact) → fact.proposition = none := by
  cases turn with
  | validated turn valid => exact turn.unstated
  | constructed turn =>
    intro mutation member
    rw [CommittedTurn.changes, (CandidateTurn.constructChangeset_eq_ok turn.built).mutations] at member
    cases member

theorem CommittedTurn.stated_iff (turn : CommittedTurn around story next) {id : KnowledgeSourceId}
    {fact : WorldFact} (stated : fact.proposition ≠ none) :
    next.knowledge[id]? = some (.fact fact) ↔
      story.knowledge[id]? = some (.fact fact) ∧ ¬Updated [⟨story, next, turn⟩] id := by
  obtain ⟨spec, committing, commits⟩ := turn.commits
  have applied := commits.knowledge
  rw [committing] at applied
  rw [applyKnowledgeMutations_stated story.knowledgeKeyed applied turn.unstated stated]
  simp [Updated]

/-- The facts with a proposition are those of the start that were never updated. -/
theorem Course.stated_iff {moves : List (Move around)} (course : Course start moves story)
    {id : KnowledgeSourceId} {fact : WorldFact} (stated : fact.proposition ≠ none) :
    story.knowledge[id]? = some (.fact fact) ↔
      start.knowledge[id]? = some (.fact fact) ∧ ¬Updated moves id := by
  refine course.invariant (P := fun moves story => story.knowledge[id]? = some (.fact fact) ↔
    start.knowledge[id]? = some (.fact fact) ∧ ¬Updated moves id) ?_ ?_
  · simp [Updated]
  · intro before story next turn ih
    rw [turn.stated_iff stated, ih, and_assoc]
    refine and_congr_right fun _ => ?_
    simp [Updated]

/-! ### The column -/

theorem Course.factValuesJson_eq {moves : List (Move around)} (course : Course start moves story) :
    story.factValuesJson = start.factValuesJson := by
  refine course.invariant (P := fun _ story => story.factValuesJson = start.factValuesJson) rfl ?_
  intro _ story next turn same
  obtain ⟨spec, _, commits⟩ := turn.commits
  exact commits.facts.trans same

theorem Course.factValues_eq_empty {foundation : Foundation} {moves : List (Move around)}
    {limits : SnapshotLimits} {snapshot : StorySnapshot}
    (created : foundation.create around = .ok start) (course : Course start moves story)
    (loaded : loadStorySnapshot limits around.uuids story.storyId story =
      .ok snapshot) : snapshot.factValues = ∅ := by
  obtain ⟨spec, _, starts⟩ := Foundation.create_eq_ok created
  have read := (loadStorySnapshot_shows loaded).facts
  rw [course.factValuesJson_eq, starts.facts,
    factValuesCodec.back (by simp [factValuesCodec, Codec.map])] at read
  exact (Option.some.inj read).symm

/-! ### Facts of the pack -/

theorem insertKnowledge_mem {entries : List KnowledgeEntry} {rows : KnowledgeRows}
    (inserted : insertKnowledge entries = .ok rows) {id : KnowledgeSourceId}
    {entry : KnowledgeEntry} (found : rows[id]? = some entry) : entry ∈ entries := by
  have collected := Result.foldlM_collects (P := fun _ => True)
    (H := fun rows pair => rows[pair.1]? = some pair.2)
    (G := fun entry pair => pair = (entry.sourceId, entry))
    ?_ inserted trivial
  · rcases (collected.2 (id, entry)).mp found with before | ⟨other, member, same⟩
    · rw [Std.ExtTreeMap.getElem?_empty] at before
      cases before
    · cases same
      exact member
  · intro rows added next _ _ ok
    refine ⟨trivial, fun pair => ?_⟩
    rw [applyKnowledgeOperation] at ok
    split at ok
    · cases ok
    · rename_i absent
      cases ok
      rw [OrdMap.get_insert, Prod.ext_iff]
      split
      · rename_i same
        have missing : rows[pair.1]? = none := by
          rw [← same]
          exact Std.ExtTreeMap.getElem?_eq_none absent
        simp [missing, same, eq_comm]
      · rename_i other
        simp [Ne.symm other]

/-- The facts a story starts with have the keys of the pack. -/
theorem Foundation.fact_key {foundation : Foundation}
    (created : foundation.create around = .ok start) {id : KnowledgeSourceId} {fact : WorldFact}
    (found : start.knowledge[id]? = some (.fact fact)) : ∃ key, fact.key = some key := by
  obtain ⟨spec, from', starts⟩ := Foundation.create_eq_ok created
  obtain ⟨facts, rumors, memories, same, materialized, _⟩ := materializeKnowledge_ok from'.knowledge
  have member := insertKnowledge_mem starts.knowledge found
  rw [same, List.mem_append, List.mem_append] at member
  obtain (among | among) | among := member
  · obtain ⟨seed, _, id, made⟩ := Result.exists_of_forall₂ materialized.factSeeds among
    obtain ⟨_, _, made⟩ := Result.bind_eq_ok made
    cases made
    exact ⟨seed.1, rfl⟩
  · obtain ⟨seed, _, id, made⟩ := Result.exists_of_forall₂ materialized.rumorSeeds among
    obtain ⟨_, _, made⟩ := Result.bind_eq_ok made
    cases made
  · have private' := materialized.privately _ among
    cases private'

/-! ### Facts that conditions see -/

/-- The values that conditions see are those of the propositions that are stored. -/
def FactsAgree (snapshot : StorySnapshot) (story : StoredStory) : Prop :=
  ∀ (key : AssetKey) (value : ScalarValue), snapshot.factValues[key]? = some value ↔
    ∃ (id : KnowledgeSourceId) (fact : WorldFact) (proposition : Proposition),
      story.knowledge[id]? = some (.fact fact) ∧ fact.key = some key ∧
        fact.proposition = some proposition ∧ proposition.value = value

/-- After any turns of both producers, conditions see the stored facts just when every fact of the
pack that has a proposition was updated before, which drops the proposition. -/
theorem facts_agree_iff_updated {foundation : Foundation} {moves : List (Move around)}
    {limits : SnapshotLimits} {snapshot : StorySnapshot}
    (created : foundation.create around = .ok start) (course : Course start moves story)
    (loaded : loadStorySnapshot limits around.uuids story.storyId story =
      .ok snapshot) :
    FactsAgree snapshot story ↔ ∀ id fact, start.knowledge[id]? = some (.fact fact) →
      fact.proposition ≠ none → Updated moves id := by
  have blind : ∀ key : AssetKey, snapshot.factValues[key]? = none := fun key => by
    rw [course.factValues_eq_empty created loaded]
    exact Std.ExtTreeMap.getElem?_empty
  constructor
  · intro agree id fact found stated
    by_contra kept
    obtain ⟨key, named⟩ := Foundation.fact_key created found
    obtain ⟨proposition, states⟩ := Option.ne_none_iff_exists'.mp stated
    have remains := (course.stated_iff stated).mpr ⟨found, kept⟩
    have seen := (agree key proposition.value).mpr ⟨id, fact, proposition, remains, named, states, rfl⟩
    rw [blind] at seen
    cases seen
  · intro updated key value
    rw [blind]
    refine iff_of_false nofun ?_
    rintro ⟨id, fact, proposition, found, _, states, _⟩
    have stated : fact.proposition ≠ none := by
      rw [states]
      exact Option.some_ne_none _
    obtain ⟨initially, kept⟩ := (course.stated_iff stated).mp found
    exact kept (updated id fact initially stated)

end

namespace FactValues.Sample
open Run.Sample

def quiet : NarrativeGraphDefinition := { entryNodes := [], nodes := ∅ }

theorem quiet_storable : quiet.Storable where
  keyed key member := absurd member Std.ExtTreeMap.not_mem_empty
  effects key node found := by
    rw [quiet, Std.ExtTreeMap.getElem?_empty] at found
    cases found

def weather (proposition : Option Proposition) : FactSeed where
  proposition
  content := ⟨"The river is high."⟩
  retrievalHint := none
  salience := 5
  activation := { matchRule := {}, mode := { constant := true }, budgetClass := .normal }

def rivers (proposition : Option Proposition) : Foundation :=
  foundation quiet quiet_storable
    ((∅ : BTreeMap AssetKey FactSeed).insert ⟨"river"⟩ (weather proposition))

def level : Proposition := ⟨⟨"river"⟩, ⟨"level"⟩, .integer 3⟩

def river : KnowledgeSourceId := Reserve.Sample.lore

/-- A fact says the level of the river, which the snapshot has no value of. -/
def measured (opened : StoredStory × StorySnapshot) : Bool :=
  opened.2.factValues[(⟨"river"⟩ : AssetKey)]? = none &&
    opened.1.knowledge.toList.any fun
      | (_, .fact fact) => fact.key = some ⟨"river"⟩ &&
          fact.proposition = some level
      | _ => false

/-- The turn has retrieved the river. -/
def seen : RetrievedContext where
  world := { facts := [{
    sourceId := river
    content := ⟨"The river is high."⟩
    source := .seed ⟨"pack-mill"⟩ (row quiet quiet_storable).digest
    activationClass := .constant
    rank := 0
    salience := 5
    tokenCost := 5
    activation := some (weather none).activation }] }

def falling : StoryStateExtractionDto where
  updateFacts := [{
    id := "fact_0001"
    content := "The river falls."
    retrievalHint := "river"
    activationTerms := some ["river"] }]

/-- The story knows of the level of the river and of nothing else, and the turn writes another fact
over it. -/
def overwritten (played : Played) : Bool :=
  (played.start.knowledge[river]?.any fun
    | .fact fact => fact.proposition = some level
    | _ => false) &&
  played.start.knowledge.keys = [river] &&
  played.changes.knowledgeMutations.any fun mutation =>
    match mutation.operation with
    | .update target _ => target = river
    | _ => false

/-- The turns after a played one, as far as they are checked here. -/
def rested (played : Played) : Bool :=
  decide (runDeterministic played.turn = []) &&
  (played.next.turns.find? (·.idempotencyKey = "stop")).isNone &&
  (Course.Sample.constructing Course.Sample.second played.next).any fun last =>
    (loadStorySnapshot limits around.uuids last.storyId last).toOption.isSome

/-- After a turn in which the level was written over, and one that the runtime has constructed,
conditions see the river as it is. -/
theorem overwritten_river_agrees : ∃ (start next last : StoredStory) (snapshot : StorySnapshot),
    (rivers (some level)).create around = .ok start ∧
      (∃ fact : WorldFact, start.knowledge[river]? = some (.fact fact) ∧
        fact.proposition = some level) ∧
      Nonempty (StoryTurn around start next) ∧ Nonempty (ConstructedTurn around next last) ∧
      loadStorySnapshot limits around.uuids last.storyId last = .ok snapshot ∧
      FactsAgree snapshot last := by
  obtain ⟨start, next, created, turn, -, checked⟩ := played_eq (rivers (some level)) falling seen
    (fun played => overwritten played && rested played) (by decide +kernel)
  simp only [overwritten, rested, Bool.and_eq_true, decide_eq_true_eq, Option.isNone_iff_eq_none]
    at checked
  obtain ⟨⟨⟨known, only⟩, writes⟩, ⟨valid, fresh⟩, constructs⟩ := checked
  obtain ⟨last, ⟨constructed⟩, reads⟩ := Course.Sample.constructing_eq fresh _ constructs
  obtain ⟨snapshot, read⟩ := Option.isSome_iff_exists.mp reads
  have loaded := Result.toOption_eq_some read
  have updated : Updated [⟨start, next, .validated turn valid⟩, ⟨next, last, .constructed constructed⟩]
      river := by
    obtain ⟨mutation, member, replaces⟩ := List.any_eq_true.mp writes
    refine ⟨_, List.mem_cons_self, mutation, member, ?_⟩
    cases operation : mutation.operation with
    | update target value =>
      rw [operation] at replaces
      exact ⟨value, congrArg (ValidatedKnowledgeOperation.update · value) (of_decide_eq_true replaces)⟩
    | add entry =>
      rw [operation] at replaces
      cases replaces
    | delete target =>
      rw [operation] at replaces
      cases replaces
  refine ⟨start, next, last, snapshot, created, ?_, ⟨turn⟩, ⟨constructed⟩, loaded, ?_⟩
  · obtain ⟨entry, found, states⟩ := (Option.any_eq_true _ _).mp known
    cases entry with
    | fact fact => exact ⟨fact, found, of_decide_eq_true states⟩
    | rumor rumor => cases states
    | memory memory => cases states
  · refine (facts_agree_iff_updated created
      (.turned (.turned .created (.validated turn valid)) (.constructed constructed)) loaded).mpr ?_
    intro id fact found stated
    have among : id ∈ start.knowledge.keys :=
      Std.ExtTreeMap.mem_keys.mpr (OrdMap.mem_iff_exists.mpr ⟨_, found⟩)
    rw [only] at among
    exact List.mem_singleton.mp among ▸ updated

/-- The level of the river is known, but no condition sees it. -/
theorem river_level_unseen :
    ∃ start snapshot, (rivers (some level)).create around = .ok start ∧
      loadStorySnapshot limits around.uuids start.storyId start = .ok snapshot ∧
      ¬FactsAgree snapshot start := by
  obtain ⟨start, snapshot, created, loaded, checked⟩ := opening_eq
    (rivers (some level)) measured (by decide +kernel)
  refine ⟨start, snapshot, created, loaded, fun agree => ?_⟩
  simp only [measured, Bool.and_eq_true, decide_eq_true_eq, List.any_eq_true] at checked
  obtain ⟨unseen, ⟨id, entry⟩, member, known⟩ := checked
  cases entry with
  | fact fact =>
    simp only [Bool.and_eq_true, decide_eq_true_eq] at known
    have found := Std.ExtTreeMap.mem_toList_iff_getElem?_eq_some.mp member
    have seen := (agree ⟨"river"⟩ (.integer 3)).mpr ⟨id, fact, _, found, known.1, known.2, rfl⟩
    rw [unseen] at seen
    cases seen
  | rumor rumor => cases known
  | memory memory => cases known

end FactValues.Sample

end Aise.Domain.Persistence
