import Aise.Domain.Activation.Rounds
import Aise.Lib.Effect

/-! Which operations of a session touch its accounts. The ledger is what budget results are
about; everything but the two callers of `admit_deliveries` leaves it alone. -/
namespace Aise.Domain
open Effect

structure Ledger where
  budget : BudgetUsage
  activated : BTreeMap KnowledgeSourceId ActivatedKnowledgeRef
  admissions : List Admission
  limits : ActivationRuntimeLimits

namespace KnowledgeActivationSession
variable {request : ActivationRequest} {externals : Externals}

def ledger (session : KnowledgeActivationSession) : Ledger where
  budget := session.budget
  activated := session.continuation.activated
  admissions := session.admissions
  limits := session.continuation.limits

theorem reject_ledger (session : KnowledgeActivationSession) (sourceId : KnowledgeSourceId)
    (reason : ActivationRejectionReason) : (session.reject sourceId reason).ledger = session.ledger :=
  rfl

theorem trimUnless_spares (mandatory : Bool) (sourceId : KnowledgeSourceId)
    (reason : ActivationRejectionReason) : Spares ledger (trimUnless mandatory sourceId reason) := by
  unfold trimUnless
  split
  · exact spares_throw _
  · exact spares_modify fun session => reject_ledger session sourceId reason

theorem validateDeliveries_spares (kind : KnowledgeKind) (deliveries : List KnowledgeDelivery) :
    Spares ledger (validateDeliveries kind deliveries) := by
  unfold validateDeliveries
  split
  · exact spares_pure _
  · exact spares_throw _

theorem accountFragment_ledger (session : KnowledgeActivationSession) (fragment : ScanFragment) :
    (accountFragment externals session fragment).ledger = session.ledger := by
  unfold accountFragment
  dsimp only
  split
  · rfl
  · rfl

theorem accountScanFragments_spares : Spares ledger (accountScanFragments request externals) := by
  unfold accountScanFragments
  refine .bind (spares_modify fun session => ?_) fun _ => .bind spares_get fun session => ?_
  · exact Loop.foldl_keeps ledger accountFragment_ledger session _
  · dsimp only
    repeat' split
    · exact spares_throw _
    · exact spares_throw _
    · exact spares_throw _
    · exact spares_pure _

theorem ingestMatch_spares (item : FragmentPatternMatch) :
    Spares ledger (ingestMatch request item) := by
  unfold ingestMatch
  refine .bind spares_get fun session => ?_
  dsimp only
  split
  · exact spares_pure _
  · split
    · exact spares_throw _
    · split
      · exact trimUnless_spares _ _ _
      · exact spares_modify fun _ => rfl

theorem ingestFragmentMatches_spares (fragment : ScanFragmentId × List FragmentPatternMatch) :
    Spares ledger (ingestFragmentMatches request fragment) := by
  unfold ingestFragmentMatches
  refine .bind spares_get fun session => ?_
  split
  · exact spares_pure _
  · exact .bind (spares_modify fun _ => rfl) fun _ => spares_forM ingestMatch_spares _

theorem lookUp_spares (matched : BTreeMap ScanFragmentId (List FragmentPatternMatch))
    (found : List (ScanFragmentId × List FragmentPatternMatch)) (fragment : ScanFragment) :
    Spares ledger (lookUp externals matched found fragment) := by
  unfold lookUp
  split
  · exact spares_throw _
  · exact spares_pure _

theorem collectText_spares (round : UInt16) (candidates : Candidates)
    (entry : KnowledgeSourceId × ActivationEntryMetadata) :
    Spares ledger (collectText request round candidates entry) := by
  unfold collectText
  refine .bind spares_get fun session => ?_
  dsimp only
  split
  · exact spares_pure _
  · split
    · exact spares_pure _
    · split
      · exact spares_pure _
      · split
        · exact spares_pure _
        · split
          · exact .bind (spares_modify fun _ => rfl) fun _ => spares_pure _
          · exact spares_pure _

theorem collectTextCandidates_spares (candidates : Candidates) :
    Spares ledger (collectTextCandidates request externals candidates) := by
  unfold collectTextCandidates
  refine .bind spares_get fun session => ?_
  refine .bind (spares_foldlM (lookUp_spares _) _ _) fun base => ?_
  refine .bind (spares_foldlM (lookUp_spares _) _ _) fun fragments => ?_
  refine .bind (spares_forM ingestFragmentMatches_spares _) fun _ => ?_
  exact spares_foldlM (collectText_spares _) _ _

theorem collectConstant_spares (candidates : Candidates) (sourceId : KnowledgeSourceId) :
    Spares ledger (collectConstant request candidates sourceId) := by
  unfold collectConstant
  split
  · exact spares_throw _
  · exact spares_pure _

theorem collectSeed_spares (candidates : Candidates) (seed : ExternalActivationSeed) :
    Spares ledger (collectSeed request candidates seed) := by
  unfold collectSeed
  split
  · exact spares_throw _
  · exact spares_pure _

theorem collectCandidates_spares : Spares ledger (collectCandidates request externals) := by
  unfold collectCandidates
  refine .bind (spares_foldlM collectConstant_spares _ _) fun constants => ?_
  refine .bind spares_get fun session => ?_
  refine .bind (spares_foldlM collectSeed_spares _ _) fun seeded => ?_
  exact collectTextCandidates_spares _

theorem trimCandidates_spares (candidates : Candidates) :
    Spares ledger (trimCandidates request candidates) := by
  unfold trimCandidates
  dsimp only
  split
  · exact spares_pure _
  · split
    · exact spares_throw _
    · refine .bind (spares_modify fun session => ?_) fun _ => spares_pure _
      exact Loop.foldl_keeps ledger
        (fun session sourceId => reject_ledger session sourceId .workLimit) session _

theorem resolveGroups_spares (candidates : List Candidate) :
    Spares ledger (resolveGroups request externals candidates) := by
  intro session
  exact Loop.foldl_keeps ledger
    (fun session (candidate : Candidate) =>
      reject_ledger session candidate.sourceId .groupLoser) _ _

theorem enterPending_spares (admitted : List KnowledgeSourceId) (candidate : Candidate) :
    Spares ledger (enterPending request externals admitted candidate) := by
  unfold enterPending
  dsimp only
  split
  · exact spares_throw _
  · split
    · exact .bind (spares_modify fun _ => rfl) fun _ => spares_pure _
    · refine .bind spares_get fun session => ?_
      split
      · exact .bind (trimUnless_spares _ _ _) fun _ => spares_pure _
      · exact .bind (spares_modify fun _ => rfl) fun _ => spares_pure _

theorem addRecursionFragment_spares (added : UInt64) (sourceId : KnowledgeSourceId) :
    Spares ledger (addRecursionFragment request externals added sourceId) := by
  unfold addRecursionFragment
  refine .bind spares_get fun session => .bind (spares_modify fun _ => rfl) fun _ => ?_
  split
  · exact spares_pure _
  · split
    · exact spares_throw _
    · refine .bind (spares_modify fun _ => rfl) fun _ => ?_
      split
      · exact spares_pure _
      · split
        · exact spares_throw _
        · dsimp only
          split
          · exact spares_throw _
          · exact .bind (spares_modify fun _ => rfl) fun _ => spares_pure _

theorem expandRecursion_spares : Spares ledger (expandRecursion request externals) := by
  unfold expandRecursion addRecursionFragments
  refine .bind (.bind spares_get fun session => .bind (spares_modify fun _ => rfl) fun _ => ?_)
    fun added => .bind spares_get fun session => ?_
  · exact spares_foldlM addRecursionFragment_spares _ _
  · split
    · exact spares_pure _
    · split
      · exact .bind (spares_modify fun _ => rfl) fun _ => spares_pure _
      · exact .bind (spares_modify fun _ => rfl) fun _ => spares_pure _

theorem setStage_spares (stage : Stage) : Spares ledger (setStage stage) :=
  spares_modify fun _ => rfl

theorem dropAdmitted_spares (sourceId : KnowledgeSourceId) :
    Spares ledger (dropAdmitted sourceId) := by
  unfold dropAdmitted
  refine .bind spares_get fun session => ?_
  split
  · exact spares_modify fun _ => rfl
  · exact spares_throw _

end KnowledgeActivationSession

end Aise.Domain
