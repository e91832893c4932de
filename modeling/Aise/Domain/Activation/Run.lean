import Aise.Domain.Activation.Rounds
import Aise.Lib.Effect
import Aise.Lib.OrdMap
import Aise.Lib.Result

/-! Runs of activation sessions. A caller may call the operations of an open session in any
order and with any arguments, also after one of them failed; a finished session hands its
continuation to a later request of the same turn. -/
namespace Aise.Domain
open Effect KnowledgeActivationSession

/-- A session starts from an empty continuation or from one that belongs to its request, and
takes its usage from there. -/
theorem start_ok {request : ActivationRequest} {session : KnowledgeActivationSession}
    (started : start request = .ok session) :
    (request.continuation = none ∧ session.continuation = newContinuation request ∨
      continues request session.continuation = true ∧
        request.continuation = some session.continuation) ∧
      budgetUsage request session.continuation = .ok session.budget ∧ session.admissions = [] := by
  unfold start at started
  obtain ⟨_, _, started⟩ := Result.bind_eq_ok started
  obtain ⟨continuation, chosen, started⟩ := Result.bind_eq_ok started
  obtain ⟨timed, _, started⟩ := Result.bind_eq_ok started
  obtain ⟨budget, restored, started⟩ := Result.bind_eq_ok started
  cases started
  refine ⟨?_, restored, rfl⟩
  unfold chooseContinuation at chosen
  split at chosen
  · rename_i given
    split at chosen
    · rename_i belongs
      cases chosen
      exact .inr ⟨belongs, given⟩
    · cases chosen
  · rename_i fresh
    cases chosen
    exact .inl ⟨fresh, rfl⟩

/-- The rest of a session that was just started. -/
structure Started (request : ActivationRequest) (session : KnowledgeActivationSession) : Prop where
  accepted : validateRequest request = .ok ()
  timed : timedView request = .ok ⟨session.timedValid, session.timedDelta⟩
  rejections : session.rejections =
    (valuesOf session.continuation.terminalRejections).foldl increment fun _ => none
  pending : session.pending = ∅
  fragments : session.recursionFragments = []
  matched : session.recursionMatches = ∅
  stage : session.stage = .start

theorem start_started {request : ActivationRequest} {session : KnowledgeActivationSession}
    (started : start request = .ok session) : Started request session := by
  unfold start at started
  obtain ⟨_, accepted, started⟩ := Result.bind_eq_ok started
  obtain ⟨continuation, _, started⟩ := Result.bind_eq_ok started
  obtain ⟨timed, view, started⟩ := Result.bind_eq_ok started
  obtain ⟨budget, _, started⟩ := Result.bind_eq_ok started
  cases started
  exact ⟨accepted, view, rfl, rfl, rfl, rfl, rfl⟩

theorem finish_ok {request : ActivationRequest} {session : KnowledgeActivationSession}
    {result : ActivationResult} (finished : finish request session = .ok result) :
    result.continuation = session.finalContinuation := by
  unfold finish at finished
  split at finished
  · cases finished
  · cases finished
    rfl

/-- Ranking changes no entry but for its rank. -/
theorem finalContinuation_activated {session : KnowledgeActivationSession}
    {sourceId : KnowledgeSourceId} {entry : ActivatedKnowledgeRef}
    (found : session.finalContinuation.activated[sourceId]? = some entry) :
    ∃ rank, session.continuation.activated[sourceId]? = some { entry with rank := rank } := by
  have ranked (entries : List ActivatedKnowledgeRef)
      (activated : BTreeMap KnowledgeSourceId ActivatedKnowledgeRef)
      (found : (entries.foldl (fun activated entry => activated.modify entry.sourceId fun stored =>
        { stored with rank := entry.rank }) activated)[sourceId]? = some entry) :
      ∃ rank, activated[sourceId]? = some { entry with rank := rank } := by
    induction entries generalizing activated with
    | nil => exact ⟨entry.rank, found⟩
    | cons first rest ih =>
      obtain ⟨rank, later⟩ := ih _ found
      rw [OrdMap.get_modify] at later
      split at later
      · obtain ⟨stored, here, same⟩ := Option.map_eq_some_iff.mp later
        refine ⟨stored.rank, ?_⟩
        rw [here]
        cases stored
        cases same
        rfl
      · exact ⟨rank, later⟩
  exact ranked _ _ found

/-- Ranking loses no entry. -/
theorem finalContinuation_stored {session : KnowledgeActivationSession}
    {sourceId : KnowledgeSourceId} {entry : ActivatedKnowledgeRef}
    (found : session.continuation.activated[sourceId]? = some entry) :
    ∃ rank, session.finalContinuation.activated[sourceId]? = some { entry with rank := rank } := by
  have ranked (entries : List ActivatedKnowledgeRef)
      (activated : BTreeMap KnowledgeSourceId ActivatedKnowledgeRef) (before : UInt32)
      (found : activated[sourceId]? = some { entry with rank := before }) :
      ∃ rank, (entries.foldl (fun activated entry => activated.modify entry.sourceId fun stored =>
        { stored with rank := entry.rank }) activated)[sourceId]? =
          some { entry with rank := rank } := by
    induction entries generalizing activated before with
    | nil => exact ⟨before, found⟩
    | cons first rest ih =>
      by_cases here : first.sourceId = sourceId
      · refine ih _ first.rank ?_
        rw [OrdMap.get_modify, if_pos here, found, Option.map_some]
      · refine ih _ before ?_
        rw [OrdMap.get_modify, if_neg here, found]
  exact ranked _ _ entry.rank found

/-- An open session and the request it was started for. -/
structure Live where
  request : ActivationRequest
  session : KnowledgeActivationSession

namespace Live

/-- The session of a request that resumes nothing. -/
def Opens (live : Live) : Prop :=
  live.request.continuation = none ∧ start live.request = .ok live.session

inductive Step (externals : Externals) : Live → Live → Prop where
  | nextRound (live : Live) : Step externals live
      { live with session := after (nextRound live.request externals live.session) }
  | supplyBodies (live : Live) (bodies : List ActivationEntryBody) : Step externals live
      { live with session := after (supplyBodies live.request externals bodies live.session) }
  | dropAdmitted (live : Live) (sourceId : KnowledgeSourceId) : Step externals live
      { live with session := after (dropAdmitted sourceId live.session) }
  | resume (live next : Live) (result : ActivationResult)
      (finished : finish live.request live.session = .ok result)
      (continues : next.request.continuation = some result.continuation)
      (started : start next.request = .ok next.session) : Step externals live next

/-- One call of an operation of the open session. -/
inductive Call (externals : Externals) : Live → Live → Prop where
  | nextRound (live : Live) : Call externals live
      { live with session := after (nextRound live.request externals live.session) }
  | supplyBodies (live : Live) (bodies : List ActivationEntryBody) : Call externals live
      { live with session := after (supplyBodies live.request externals bodies live.session) }
  | dropAdmitted (live : Live) (sourceId : KnowledgeSourceId) : Call externals live
      { live with session := after (dropAdmitted sourceId live.session) }

section
variable {live next : Live}

/-- The limits of a request that resumes a session are those of the session. -/
theorem resumed_limits {result : ActivationResult}
    (limits : live.session.continuation.limits = live.request.limits)
    (finished : finish live.request live.session = .ok result)
    (continues : next.request.continuation = some result.continuation)
    (started : start next.request = .ok next.session) :
    next.session.continuation = live.session.finalContinuation ∧
      next.session.continuation.limits = next.request.limits ∧
      next.request.limits = live.request.limits := by
  obtain ⟨⟨fresh, _⟩ | ⟨belongs, chosen⟩, _, _⟩ := start_ok started
  · rw [fresh] at continues
    cases continues
  · have same := Option.some.inj (chosen.symm.trans continues)
    rw [finish_ok finished] at same
    simp only [Domain.continues, Bool.and_eq_true, decide_eq_true_eq] at belongs
    refine ⟨same, belongs.2, ?_⟩
    rw [← belongs.2, same, ← limits]
    rfl

/-- The first session of a run starts from an empty continuation. -/
theorem Opens.continuation (opens : live.Opens) :
    live.session.continuation = newContinuation live.request := by
  obtain ⟨⟨_, chosen⟩ | ⟨_, given⟩, _, _⟩ := start_ok opens.2
  · exact chosen
  · rw [opens.1] at given
    cases given

end

end Live

end Aise.Domain
