import Aise.Core.Narrative.Plan
import Aise.Pipeline.Error
import Aise.Pipeline.Extract.Narrative

/-! Reading the answers to the semantic queries. A reply is taken only when it answers
every query once and nothing else, so no leaf the resolver looks at falls back to the
value of a missing entry. Decoding the JSON text is left to a parameter. -/
namespace Aise

structure SemanticEvaluationDto where
  conditionId : NarrativeConditionId
  truth : Truth
  deriving DecidableEq

structure EvaluateNarrativeOutputDto where
  evaluations : List SemanticEvaluationDto

/-- The place a JSON error is reported at. -/
structure JsonErrorPlace where
  line : Nat
  column : Nat

/-- The loop over the answers. -/
def recordEvaluations (expected : Std.ExtTreeSet NarrativeConditionId)
    (evaluations : BTreeMap .narrativeCondition Truth) :
    List SemanticEvaluationDto → Except PipelineError (BTreeMap .narrativeCondition Truth)
  | [] => .ok evaluations
  | evaluation :: rest =>
    if evaluations.contains evaluation.conditionId then
      .error (.invalidOutput .extract "extract_narrative_duplicate_condition"
        s!"condition {evaluation.conditionId} was returned more than once")
    else if !expected.contains evaluation.conditionId then
      .error (.invalidOutput .extract "extract_narrative_unknown_condition"
        s!"condition {evaluation.conditionId} was not requested")
    else
      recordEvaluations expected (evaluations.insert evaluation.conditionId evaluation.truth) rest

def parseNarrativeEvaluations
    (fromStr : String → Except JsonErrorPlace EvaluateNarrativeOutputDto)
    (raw : String) (queries : List SemanticQuery) :
    Except PipelineError (BTreeMap .narrativeCondition Truth) :=
  match fromStr raw with
  | .error place =>
    .error (.invalidOutput .extract "extract_narrative_invalid_json"
      s!"invalid narrative evaluation JSON at line {place.line} column {place.column}")
  | .ok output => do
    let expected := Std.ExtTreeSet.ofList (queries.map (·.conditionId))
    let evaluations ← recordEvaluations expected ∅ output.evaluations
    let missing := queries.filter fun query => !evaluations.contains query.conditionId
    let listed := ", ".intercalate (missing.map (·.conditionId.value))
    if !missing.isEmpty then
      .error (.invalidOutput .extract "extract_narrative_missing_condition"
        s!"missing narrative conditions: {listed}")
    else .ok evaluations

section Record
variable {expected : Std.ExtTreeSet NarrativeConditionId}
  {before results : BTreeMap .narrativeCondition Truth} {reply : List SemanticEvaluationDto}

theorem get_recordEvaluations (recorded : recordEvaluations expected before reply = .ok results)
    (conditionId : NarrativeConditionId) (truth : Truth) :
    results[conditionId]? = some truth ↔
      before[conditionId]? = some truth ∨ ⟨conditionId, truth⟩ ∈ reply := by
  induction reply generalizing before with
  | nil =>
    cases recorded
    simp
  | cons evaluation rest ih =>
    simp only [recordEvaluations] at recorded
    split at recorded
    · contradiction
    · rename_i fresh
      split at recorded
      · contradiction
      · rw [ih recorded, OrdMap.get_insert]
        by_cases same : evaluation.conditionId = conditionId
        · subst same
          have unknown : before[evaluation.conditionId]? = none := by simpa using fresh
          obtain ⟨id, given⟩ := evaluation
          simp [unknown, eq_comm]
        · have other : (⟨conditionId, truth⟩ : SemanticEvaluationDto) ≠ evaluation := by
            rintro rfl
            exact same rfl
          simp [same, other]

theorem recordEvaluations_ok_iff :
    (∃ results, recordEvaluations expected before reply = .ok results) ↔
      (reply.map (·.conditionId)).Nodup ∧
        ∀ evaluation ∈ reply, evaluation.conditionId ∈ expected ∧
          evaluation.conditionId ∉ before := by
  induction reply generalizing before with
  | nil => simp [recordEvaluations]
  | cons evaluation rest ih =>
    simp only [recordEvaluations, List.map_cons, List.nodup_cons, List.forall_mem_cons]
    split
    · rename_i repeated
      have known : evaluation.conditionId ∈ before := by simpa using repeated
      simp [known]
    · rename_i fresh
      have fresh : evaluation.conditionId ∉ before := by simpa using fresh
      split
      · rename_i strange
        have strange : evaluation.conditionId ∉ expected :=
          OrdMap.set_contains_eq_false_iff.mp (by simpa using strange)
        simp [strange]
      · rename_i asked
        have asked : evaluation.conditionId ∈ expected := by simpa using asked
        rw [ih]
        constructor
        · rintro ⟨distinct, later⟩
          refine ⟨⟨?_, distinct⟩, ⟨asked, fresh⟩, fun other member => ?_⟩
          · intro again
            obtain ⟨other, member, same⟩ := List.mem_map.mp again
            exact (later other member).2 (by simp [same])
          · obtain ⟨requested, unseen⟩ := later other member
            exact ⟨requested, fun known => unseen (by simp [known])⟩
        · rintro ⟨⟨once, distinct⟩, _, later⟩
          refine ⟨distinct, fun other member => ⟨(later other member).1, fun known => ?_⟩⟩
          rcases Std.ExtTreeMap.mem_insert.mp known with same | known
          · have same := Std.LawfulEqOrd.eq_of_compare same
            exact once (List.mem_map.mpr ⟨other, member, same.symm⟩)
          · exact (later other member).2 known

theorem mem_results (recorded : recordEvaluations expected ∅ reply = .ok results) :
    conditionId ∈ results ↔ conditionId ∈ reply.map (·.conditionId) := by
  rw [OrdMap.mem_iff_exists, List.mem_map]
  constructor
  · rintro ⟨truth, found⟩
    rcases (get_recordEvaluations recorded _ _).mp found with before | answered
    · simp at before
    · exact ⟨_, answered, rfl⟩
  · rintro ⟨evaluation, answered, rfl⟩
    exact ⟨evaluation.truth, (get_recordEvaluations recorded _ _).mpr (.inr answered)⟩

end Record

section Parse
variable {fromStr : String → Except JsonErrorPlace EvaluateNarrativeOutputDto} {raw : String}
  {queries : List SemanticQuery} {results : BTreeMap .narrativeCondition Truth}

/-- The steps of a successful parse. -/
theorem parseNarrativeEvaluations_eq_ok :
    parseNarrativeEvaluations fromStr raw queries = .ok results ↔
      ∃ output, fromStr raw = .ok output ∧
        recordEvaluations (.ofList (queries.map (·.conditionId))) ∅ output.evaluations =
          .ok results ∧ ∀ query ∈ queries, query.conditionId ∈ results := by
  cases decoded : fromStr raw with
  | error place => simp [parseNarrativeEvaluations, decoded]
  | ok output =>
    cases recorded : recordEvaluations (.ofList (queries.map (·.conditionId))) ∅
        output.evaluations with
    | error error => simp [parseNarrativeEvaluations, decoded, recorded, bind, Except.bind]
    | ok evaluations =>
      have complete : (queries.filter fun query => !evaluations.contains query.conditionId) = [] ↔
          ∀ query ∈ queries, query.conditionId ∈ evaluations := by
        simp [List.filter_eq_nil_iff]
      simp only [parseNarrativeEvaluations, decoded, recorded, bind, Except.bind,
        Bool.not_eq_true', Except.ok.injEq]
      split
      · rename_i missing
        rw [List.isEmpty_eq_false_iff, ne_eq, complete] at missing
        constructor
        · intro accepted
          contradiction
        · rintro ⟨_, rfl, accepted, all⟩
          rw [recorded] at accepted
          cases accepted
          exact absurd all missing
      · rename_i missing
        rw [Bool.not_eq_false, List.isEmpty_iff, complete] at missing
        constructor
        · intro accepted
          cases accepted
          exact ⟨output, rfl, recorded, missing⟩
        · rintro ⟨_, rfl, accepted, _⟩
          rw [recorded] at accepted
          exact accepted

/-- A reply is taken exactly when it answers each query once. -/
theorem parseNarrativeEvaluations_ok_iff :
    (∃ results, parseNarrativeEvaluations fromStr raw queries = .ok results) ↔
      ∃ output, fromStr raw = .ok output ∧
        (output.evaluations.map (·.conditionId)).Nodup ∧
        ∀ conditionId, conditionId ∈ output.evaluations.map (·.conditionId) ↔
          conditionId ∈ queries.map (·.conditionId) := by
  simp only [parseNarrativeEvaluations_eq_ok]
  constructor
  · rintro ⟨results, output, decoded, recorded, complete⟩
    obtain ⟨distinct, asked⟩ := recordEvaluations_ok_iff.mp ⟨results, recorded⟩
    refine ⟨output, decoded, distinct, fun conditionId => ⟨?_, ?_⟩⟩
    · intro answered
      obtain ⟨evaluation, member, rfl⟩ := List.mem_map.mp answered
      simpa using (asked evaluation member).1
    · intro queried
      obtain ⟨query, member, rfl⟩ := List.mem_map.mp queried
      exact (mem_results recorded).mp (complete query member)
  · rintro ⟨output, decoded, distinct, exact_⟩
    have accepted : ∃ results, recordEvaluations (.ofList (queries.map (·.conditionId))) ∅
        output.evaluations = .ok results := by
      apply recordEvaluations_ok_iff.mpr
      refine ⟨distinct, fun evaluation member => ⟨?_, by simp⟩⟩
      have queried := (exact_ evaluation.conditionId).mp (List.mem_map_of_mem member)
      simpa using queried
    obtain ⟨results, recorded⟩ := accepted
    refine ⟨results, output, decoded, recorded, fun query member => ?_⟩
    exact (mem_results recorded).mpr ((exact_ _).mpr (List.mem_map_of_mem member))

end Parse

/-- A valid graph always has its queries, a reply is taken exactly when it answers each
of them once, and then every leaf the resolver evaluates has the truth the reply gave. -/
theorem narrative_reply_answers_every_leaf {graph : NarrativeGraph}
    (accepted : graph.validate = .ok ()) (state : NarrativeState) :
    ∃ plan, graph.plan state = .ok plan ∧
      ∀ (fromStr : String → Except JsonErrorPlace EvaluateNarrativeOutputDto) (raw : String),
        ((∃ results, parseNarrativeEvaluations fromStr raw plan.queries = .ok results) ↔
          ∃ output, fromStr raw = .ok output ∧
            (output.evaluations.map (·.conditionId)).Nodup ∧
            ∀ conditionId, conditionId ∈ output.evaluations.map (·.conditionId) ↔
              conditionId ∈ plan.queries.map (·.conditionId)) ∧
        ∀ results, parseNarrativeEvaluations fromStr raw plan.queries = .ok results →
          ∃ output, fromStr raw = .ok output ∧
          ∀ (turn : TurnNumber) (nodeId : NarrativeNodeId) (node : NarrativeNode),
            graph.nodes[nodeId]? = some node →
            ∀ condition ∈ node.evaluated (state.status nodeId) state ⟨turn, results⟩,
            ∀ leaf ∈ condition.leaves, ∃ truth, results[leaf.1]? = some truth ∧
              ⟨leaf.1, truth⟩ ∈ output.evaluations ∧
              (NarrativeCondition.semantic leaf.1 leaf.2).evaluate state ⟨turn, results⟩ = truth := by
  obtain ⟨plan, planned⟩ := graph.plan_of_validate accepted state
  refine ⟨plan, planned, fun fromStr raw => ⟨parseNarrativeEvaluations_ok_iff, ?_⟩⟩
  intro results parsed
  obtain ⟨output, decoded, recorded, complete⟩ := parseNarrativeEvaluations_eq_ok.mp parsed
  refine ⟨output, decoded, fun turn nodeId node found condition evaluated leaf inside => ?_⟩
  have answered := complete _ (NarrativeGraph.leaf_asked planned found evaluated inside)
  obtain ⟨truth, given⟩ := OrdMap.mem_iff_exists.mp answered
  refine ⟨truth, given, ?_, by simp [NarrativeCondition.evaluate, given]⟩
  rcases (get_recordEvaluations recorded _ _).mp given with before | replied
  · simp at before
  · exact replied

namespace Sample

def doorReply : String :=
  "\x7b\"evaluations\":[\x7b\"condition_id\":\"door_open\",\"truth\":\"unknown\"\x7d]\x7d"

/-- Decodes the one reply; any other text is an error at its start. -/
def decodeDoorReply (raw : String) : Except JsonErrorPlace EvaluateNarrativeOutputDto :=
  if raw = doorReply then .ok ⟨[⟨doorOpen, .unknown⟩]⟩ else .error ⟨1, 1⟩

end Sample

theorem guarded_reply_answers_every_leaf : Sample.guarded.validate = .ok () ∧
    ∃ plan, Sample.guarded.plan {} = .ok plan ∧ ∃ results,
      parseNarrativeEvaluations Sample.decodeDoorReply Sample.doorReply plan.queries =
        .ok results := by
  have valid : Sample.guarded.validate = .ok () := by rfl
  obtain ⟨plan, planned, replies⟩ := narrative_reply_answers_every_leaf valid {}
  refine ⟨valid, plan, planned, (replies Sample.decodeDoorReply Sample.doorReply).1.mpr ?_⟩
  have asked : Sample.guarded.plan {} = .ok ⟨[], [], [Sample.doorQuery]⟩ := by rfl
  rw [asked] at planned
  cases planned
  refine ⟨⟨[⟨Sample.doorOpen, .unknown⟩]⟩, if_pos rfl, by simp, fun conditionId => ?_⟩
  rfl

end Aise
