import Aise.Turn.TurnContract

/-! The outcome of a validation: what is wrong with a candidate, and what to do about it. -/
namespace Aise.Domain

inductive ValidationIssueCode where
  | storyTextEmpty | storyTextExceedsBounds | extractionSchemaInvalid | extractionCountExceeded
  | extractionDuplicateTarget | referenceMissing | modificationForbidden | unchangedRoleEmitted
  | unchangedRelationshipEmitted | domainInvariantViolated | knowledgeOperationIllegal
  | knowledgeTargetInvalid | knowledgeOwnerUnauthorized | staleStateExtraction
  | storyStateInconsistent | narrativeInconsistent | castPolicyViolation | newRoleInvalid
  deriving DecidableEq

def ValidationIssueCode.asStr : ValidationIssueCode → String
  | storyTextEmpty => "story_text_empty"
  | storyTextExceedsBounds => "story_text_exceeds_bounds"
  | extractionSchemaInvalid => "extraction_schema_invalid"
  | extractionCountExceeded => "extraction_count_exceeded"
  | extractionDuplicateTarget => "extraction_duplicate_target"
  | referenceMissing => "reference_missing"
  | modificationForbidden => "modification_forbidden"
  | unchangedRoleEmitted => "unchanged_role_emitted"
  | unchangedRelationshipEmitted => "unchanged_relationship_emitted"
  | domainInvariantViolated => "domain_invariant_violated"
  | knowledgeOperationIllegal => "knowledge_operation_illegal"
  | knowledgeTargetInvalid => "knowledge_target_invalid"
  | knowledgeOwnerUnauthorized => "knowledge_owner_unauthorized"
  | staleStateExtraction => "stale_state_extraction"
  | storyStateInconsistent => "story_state_inconsistent"
  | narrativeInconsistent => "narrative_inconsistent"
  | castPolicyViolation => "cast_policy_violation"
  | newRoleInvalid => "new_role_invalid"

inductive ValidationIssueClass where
  | story | extraction | crossConsistency
  deriving DecidableEq

inductive ValidationRemedy where
  | repairStory | reextractState | reject
  deriving DecidableEq

structure ValidationLocation where
  path : String
  itemIndex : Option UInt32
  deriving DecidableEq

structure ValidationIssue where
  code : ValidationIssueCode
  issueClass : ValidationIssueClass
  remedy : ValidationRemedy
  message : String
  location : Option ValidationLocation := none
  deriving DecidableEq

/-- Issues as `try_new` accepts them: some, but not too many, with short messages. -/
structure BoundedValidationIssues where
  issues : List ValidationIssue
  maxIssues : Nat
  accepted : 0 < maxIssues ∧ issues ≠ [] ∧ issues.length ≤ maxIssues ∧
    ∀ issue ∈ issues, issue.message.length ≤ 500
  deriving DecidableEq

inductive ValidationDecision where
  | pass | repairStory | reextractState | reject
  deriving DecidableEq

def ValidationDecision.asStr : ValidationDecision → String
  | pass => "pass"
  | repairStory => "repair_story"
  | reextractState => "reextract_state"
  | reject => "reject"

def ValidationDecision.toTurnPhase : ValidationDecision → TurnPhase
  | pass => .readyToCommit
  | repairStory => .storyRepairRequired
  | reextractState => .stateReextractionRequired
  | reject => .failed

inductive ValidationResult (ChangeSet : Type) where
  | pass (changeSet : ChangeSet)
  | repairStory (issues : BoundedValidationIssues)
  | reextractState (issues : BoundedValidationIssues)
  | reject (issues : BoundedValidationIssues)
  deriving DecidableEq

namespace ValidationResult
variable {ChangeSet : Type}

def decision : ValidationResult ChangeSet → ValidationDecision
  | pass _ => .pass
  | repairStory _ => .repairStory
  | reextractState _ => .reextractState
  | reject _ => .reject

def issues : ValidationResult ChangeSet → List ValidationIssue
  | pass _ => []
  | repairStory issues | reextractState issues | reject issues => issues.issues

def intoChangeSet : ValidationResult ChangeSet → Option ChangeSet
  | pass changeSet => some changeSet
  | _ => none

end ValidationResult

end Aise.Domain
