import Aise.Core.Activation.Accounting
import Aise.Engine.Provenance
import Aise.Pipeline.Baseline
import Aise.Pipeline.PlanSafety

/-! What reaches the generation of a turn: the entries the baseline has activated and those the
plan has retrieved. The plan is offered the keys that are not the identifier of an activated
entry, so nothing comes twice where entries are kept under their identifiers. -/
namespace Aise

/-- Each entry is kept under its own identifier. -/
def Filed (entries : BTreeMap kind (KnowledgeEntry kind)) : Prop :=
  ∀ (id : Ident kind) (entry : KnowledgeEntry kind), entries[id]? = some entry → entry.id = id

structure StoryContext.Filed (context : StoryContext) : Prop where
  facts : Aise.Filed context.facts
  rumors : Aise.Filed context.rumors

/-- A story that runs from its creation keeps its entries so. -/
theorem StoredStory.Provenance.filed {story : StoredStory} (known : story.Provenance spec) :
    story.context.Filed where
  facts id entry found := (known.facts id entry found).1
  rumors id entry found := (known.rumors id entry found).1

/-- What is retrieved is known to the story, and no identifier comes twice, neither among the
retrieved entries nor among the activated ones nor in both. -/
structure Delivered (entries : BTreeMap kind (KnowledgeEntry kind))
    (activated retrieved : List (KnowledgeEntry kind)) : Prop where
  known : ∀ entry ∈ retrieved, entries[entry.id]? = some entry
  once : ((activated ++ retrieved).map (·.id)).Nodup

/-! ### What the baseline activates -/

namespace KnowledgeScope
variable {tables : CharTables} {sha256 : Sha256} {config : ActivationConfig}

theorem entries_distinct {V : Type} (entries : BTreeMap kind V) (key : Ident kind → KnowledgeKey)
    (injective : Function.Injective key) :
    (entries.toList.map fun entry => key entry.1).Nodup := by
  rw [List.Nodup, List.pairwise_map]
  refine Std.ExtTreeMap.distinct_keys_toList.imp fun differ same => differ ?_
  rw [injective same]
  exact Std.ReflCmp.compare_self

theorem candidates_distinct (context : StoryContext) :
    ((candidates context).map (·.key)).Nodup := by
  have facts := entries_distinct context.facts KnowledgeKey.fact fun _ _ same => by cases same; rfl
  have rumors := entries_distinct context.rumors KnowledgeKey.rumor fun _ _ same => by cases same; rfl
  rw [candidates, List.map_append, List.map_map, List.map_map]
  refine List.nodup_append.mpr ⟨facts, rumors, ?_⟩
  intro left one right other
  obtain ⟨fact, -, rfl⟩ := List.mem_map.mp one
  obtain ⟨rumor, -, rfl⟩ := List.mem_map.mp other
  exact KnowledgeKey.noConfusion

theorem activated_distinct (scope : KnowledgeScope) :
    ((scope.runActivation tables sha256 config).activated.map (·.key)).Nodup := by
  have accounted := Activation.Input.final_accounted
    (.ofCandidates tables sha256 (candidates scope.context)
      ⟨scope.context.storyId, scope.context.turnNumber⟩ config)
    (scope.buildScanBuffer tables)
  have distinct := candidates_distinct scope.context
  show (Activation.Session.activated _ |>.map (·.key)).Nodup
  rw [accounted.keys]
  refine accounted.distinct.map_on fun left _ right _ same => ?_
  have equal : (candidates scope.context).get left = (candidates scope.context).get right :=
    List.inj_on_of_nodup_map distinct (List.get_mem _ _) (List.get_mem _ _) same
  exact (distinct.of_map _).injective_get equal

/-- Entries looked up under distinct keys have distinct identifiers. -/
theorem collected_distinct {entries : BTreeMap kind (KnowledgeEntry kind)} (filed : Filed entries)
    {keys : List KnowledgeKey} (distinct : keys.Nodup) {name : KnowledgeKey → Option (Ident kind)}
    (apart : ∀ left right id, name left = some id → name right = some id → left = right) :
    ((keys.filterMap fun key => (name key).bind fun id => entries[id]?).map (·.id)).Nodup := by
  rw [List.map_filterMap]
  refine distinct.filterMap fun left right id first second => ?_
  have named {key : KnowledgeKey}
      (found : (((name key).bind fun id => entries[id]?).map (·.id)) = some id) :
      name key = some id := by
    obtain ⟨entry, kept, rfl⟩ := Option.map_eq_some_iff.mp found
    obtain ⟨place, named, kept⟩ := Option.bind_eq_some_iff.mp kept
    rw [filed place entry kept, named]
  exact apart left right id (named first) (named second)

def factId? : KnowledgeKey → Option FactId
  | .fact id => some id
  | .rumor _ => none

def rumorId? : KnowledgeKey → Option RumorId
  | .fact _ => none
  | .rumor id => some id

theorem factId?_eq_some {key : KnowledgeKey} {id : FactId} : factId? key = some id ↔ key = .fact id := by
  cases key <;> simp [factId?]

theorem rumorId?_eq_some {key : KnowledgeKey} {id : RumorId} : rumorId? key = some id ↔ key = .rumor id := by
  cases key <;> simp [rumorId?]

theorem collectKnowledge_facts (context : StoryContext)
    (outcome : ActivationOutcome KnowledgeKey) :
    (collectKnowledge context outcome).facts =
      (outcome.activated.map (·.key)).filterMap fun key =>
        (factId? key).bind fun id => context.facts[id]? := by
  rw [List.filterMap_map]
  refine List.filterMap_congr fun activated _ => ?_
  rcases activated with ⟨_ | _⟩ <;> rfl

theorem collectKnowledge_rumors (context : StoryContext)
    (outcome : ActivationOutcome KnowledgeKey) :
    (collectKnowledge context outcome).rumors =
      (outcome.activated.map (·.key)).filterMap fun key =>
        (rumorId? key).bind fun id => context.rumors[id]? := by
  rw [List.filterMap_map]
  refine List.filterMap_congr fun activated _ => ?_
  rcases activated with ⟨_ | _⟩ <;> rfl

theorem facts_distinct {scope : KnowledgeScope} (filed : scope.context.Filed) :
    ((activateKnowledge tables sha256 config scope).facts.map (·.id)).Nodup := by
  rw [activateKnowledge, collectKnowledge_facts]
  refine collected_distinct filed.facts (activated_distinct scope) fun left right id one other => ?_
  rw [factId?_eq_some.mp one, factId?_eq_some.mp other]

theorem rumors_distinct {scope : KnowledgeScope} (filed : scope.context.Filed) :
    ((activateKnowledge tables sha256 config scope).rumors.map (·.id)).Nodup := by
  rw [activateKnowledge, collectKnowledge_rumors]
  refine collected_distinct filed.rumors (activated_distinct scope) fun left right id one other => ?_
  rw [rumorId?_eq_some.mp one, rumorId?_eq_some.mp other]

end KnowledgeScope

/-! ### What the plan may select -/

theorem candidatesOf_fresh {entries : BTreeMap kind V} {chosen : Ident kind}
    (offered : ((candidatesOf hint activated limit entries).any (·.id = chosen)) = true) :
    chosen ∉ activated := by
  simp only [candidatesOf, List.any_map, List.any_eq_true] at offered
  obtain ⟨entry, member, same⟩ := offered
  obtain ⟨-, fresh⟩ := List.mem_filter.mp (List.mem_of_mem_take member)
  have same : entry.1 = chosen := by simpa using same
  simpa [same] using fresh

/-- The identifiers a plan selects of one kind: each once, and none of an activated entry. -/
structure Selected (entries : BTreeMap kind (KnowledgeEntry kind))
    (activated : List (KnowledgeEntry kind)) (chosen : List (Ident kind)) : Prop where
  distinct : chosen.Nodup
  known : ∀ id ∈ chosen, id ∈ entries
  fresh : ∀ id ∈ chosen, id ∉ activated.map (·.id)

theorem PlanLlm.validateIds_selected {entries : BTreeMap kind (KnowledgeEntry kind)}
    {activated : List (KnowledgeEntry kind)} (hint : KnowledgeEntry kind → RetrievalHint)
    (accepted : validateIds (fun chosen => (candidatesOf hint (activated.map (·.id)) limit
      entries).any (·.id = chosen)) duplicate unknown ids = .ok results) :
    Selected entries activated ids where
  distinct := by simpa using Distinct.each_distinct accepted
  known id member := mem_candidatesOf (validateIds_offered accepted id member)
  fresh id member := candidatesOf_fresh (validateIds_offered accepted id member)

theorem PlanLlm.parsePlanOutput_selected {context : StoryContext} {knowledge : ActivatedKnowledge}
    (accepted : parsePlanOutput fromStr raw (collectCandidates context knowledge limit) catalog
      playerRole config = .ok output) :
    Selected context.facts knowledge.facts output.factsToRetrieve ∧
      Selected context.rumors knowledge.rumors output.rumorsToRetrieve := by
  simp only [parsePlanOutput] at accepted
  split at accepted
  · cases accepted
  · obtain ⟨_, _, accepted⟩ := Result.bind_eq_ok accepted
    obtain ⟨_, _, accepted⟩ := Result.bind_eq_ok accepted
    obtain ⟨_, facts, accepted⟩ := Result.bind_eq_ok accepted
    obtain ⟨_, rumors, accepted⟩ := Result.bind_eq_ok accepted
    obtain ⟨_, _, accepted⟩ := Result.bind_eq_ok accepted
    obtain ⟨_, _, accepted⟩ := Result.bind_eq_ok accepted
    split at accepted
    · cases accepted
    · cases accepted
      exact ⟨validateIds_selected (fun entry => entry.body.retrieval) facts,
        validateIds_selected (fun entry => entry.body.retrieval) rumors⟩

/-! ### What retrieval returns -/

/-- Resolving selected identifiers yields an entry for each of them. -/
theorem Selected.delivered {entries : BTreeMap kind (KnowledgeEntry kind)}
    {activated retrieved : List (KnowledgeEntry kind)}
    (selected : Selected entries activated chosen) (filed : Filed entries)
    (once : (activated.map (·.id)).Nodup)
    {resolve : Ident kind → Except PipelineError (KnowledgeEntry kind)}
    (resolved : chosen.mapM resolve = .ok retrieved)
    (finds : ∀ id entry, resolve id = .ok entry → entries[id]? = some entry) :
    Delivered entries activated retrieved := by
  have each := Result.mapM_eq_ok resolved
  have named : retrieved.map (·.id) = chosen := by
    have agree := Result.map_of_forall₂ (fun entry => entry.id) id each
      fun id _ entry found => filed id entry (finds id entry found)
    rwa [List.map_id] at agree
  constructor
  · intro entry member
    obtain ⟨id, -, found⟩ := Result.exists_of_forall₂ each member
    have kept := finds id entry found
    rwa [filed id entry kept]
  · rw [List.map_append, named]
    refine List.nodup_append.mpr ⟨once, selected.distinct, ?_⟩
    rintro active here _ member rfl
    exact selected.fresh active member here

theorem RetrievalPipeline.execute_delivered {context : StoryContext} {knowledge : ActivatedKnowledge}
    (executed : execute factIds rumorIds context = .ok retrieved) (filed : context.Filed)
    (facts : Selected context.facts knowledge.facts factIds)
    (rumors : Selected context.rumors knowledge.rumors rumorIds)
    (factsOnce : (knowledge.facts.map (·.id)).Nodup)
    (rumorsOnce : (knowledge.rumors.map (·.id)).Nodup) :
    Delivered context.facts knowledge.facts retrieved.facts ∧
      Delivered context.rumors knowledge.rumors retrieved.rumors := by
  obtain ⟨foundFacts, resolvedFacts, executed⟩ := Result.bind_eq_ok executed
  obtain ⟨foundRumors, resolvedRumors, executed⟩ := Result.bind_eq_ok executed
  cases executed
  constructor
  · refine facts.delivered filed.facts factsOnce resolvedFacts fun id entry found => ?_
    split at found
    next other kept => rw [kept, Except.ok.inj found]
    next => cases found
  · refine rumors.delivered filed.rumors rumorsOnce resolvedRumors fun id entry found => ?_
    split at found
    next other kept => rw [kept, Except.ok.inj found]
    next => cases found

/-- Whatever the baseline activates and whatever plan is accepted on top of it, the generation
gets no fact and no rumor twice. -/
theorem knowledge_delivered_once {scope : KnowledgeScope} {tables : CharTables} {sha256 : Sha256}
    {activation : ActivationConfig} (filed : scope.context.Filed)
    (accepted : PlanLlm.parsePlanOutput fromStr raw
      (collectCandidates scope.context (scope.activateKnowledge tables sha256 activation) limit)
      catalog playerRole config = .ok output) :
    ∃ retrieved, RetrievalPipeline.execute output.factsToRetrieve output.rumorsToRetrieve
        scope.context = .ok retrieved ∧
      Delivered scope.context.facts (scope.activateKnowledge tables sha256 activation).facts
        retrieved.facts ∧
      Delivered scope.context.rumors (scope.activateKnowledge tables sha256 activation).rumors
        retrieved.rumors := by
  obtain ⟨facts, rumors⟩ := PlanLlm.parsePlanOutput_selected accepted
  obtain ⟨retrieved, executed⟩ := retrieval_total facts.known rumors.known
  exact ⟨retrieved, executed, RetrievalPipeline.execute_delivered executed filed facts rumors
    (KnowledgeScope.facts_distinct filed) (KnowledgeScope.rumors_distinct filed)⟩

namespace Sample

def lamp : FactId := ⟨"lamp", by decide⟩

def lookAround : PlayerContribution := ⟨"I look around.", "The traveller looks around."⟩

def activated (context : StoryContext) : ActivatedKnowledge :=
  KnowledgeScope.activateKnowledge Activation.Sample.ascii Activation.Sample.zeros {}
    ⟨context, lookAround, ⟨[], []⟩⟩

def parseGateReply (context : StoryContext) : Except PipelineError PlanOutput :=
  PlanLlm.parsePlanOutput decodeGateReply gateReply
    (collectCandidates context (activated context) planConfig.maxRetrievalCandidatesPerKind)
    (collectRoleCatalog context context.player) hero planConfig

/-- A fact that is always active. -/
def lampEntry : FactEntry where
  id := lamp
  origin := .seed
  body := { body "The lamp is lit." with activation := { mode := { constant := true } } }

/-- It is kept under the name of another one. -/
def misfiled : StoryContext := { party with
  facts := (∅ : BTreeMap .fact FactEntry).insert factId lampEntry }

def gateOutput : PlanOutput :=
  ⟨⟨"Open the gate."⟩, [factId], [], [guide], [⟨guide, ⟨"Who has the key?"⟩⟩]⟩

theorem party_filed : party.Filed where
  facts id entry found := by
    simp only [party, OrdMap.get_insert] at found
    split at found
    next same =>
      cases found
      exact same
    next => simp at found
  rumors id entry found := by simp [party] at found

theorem activated_party : activated party = ⟨[], []⟩ := by
  have facts : (activated party).facts = [] := by decide +kernel
  have rumors : (activated party).rumors = [] := by decide +kernel
  rw [← facts, ← rumors]

theorem party_accepted : parseGateReply party = .ok gateOutput := by
  have decoded : decodeGateReply gateReply = .ok gatePlan := if_pos rfl
  rw [parseGateReply, activated_party, PlanLlm.parsePlanOutput, decoded]
  rfl

theorem activated_misfiled : activated misfiled = ⟨[lampEntry], []⟩ := by
  have facts : (activated misfiled).facts = [lampEntry] := by decide +kernel
  have rumors : (activated misfiled).rumors = [] := by decide +kernel
  rw [← facts, ← rumors]

theorem misfiled_accepted : parseGateReply misfiled = .ok gateOutput := by
  have decoded : decodeGateReply gateReply = .ok gatePlan := if_pos rfl
  rw [parseGateReply, activated_misfiled, PlanLlm.parsePlanOutput, decoded]
  rfl

end Sample

theorem gate_delivered_once : ∃ retrieved,
    RetrievalPipeline.execute [Sample.factId] [] Sample.party = .ok retrieved ∧
      Delivered Sample.party.facts (Sample.activated Sample.party).facts retrieved.facts ∧
      Delivered Sample.party.rumors (Sample.activated Sample.party).rumors retrieved.rumors :=
  knowledge_delivered_once Sample.party_filed Sample.party_accepted

/-- The lamp is active already, and is retrieved again under the name it is kept. -/
theorem lamp_delivered_twice :
    Sample.parseGateReply Sample.misfiled = .ok Sample.gateOutput ∧
      (Sample.activated Sample.misfiled).facts = [Sample.lampEntry] ∧
      RetrievalPipeline.execute Sample.gateOutput.factsToRetrieve Sample.gateOutput.rumorsToRetrieve
        Sample.misfiled = .ok ⟨[Sample.lampEntry], []⟩ := by
  refine ⟨Sample.misfiled_accepted, ?_, ?_⟩
  · rw [Sample.activated_misfiled]
  · rfl

end Aise
