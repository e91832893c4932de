import Aise.Core.Knowledge

/-! A committed turn and the request it answers. Scores are exact rationals: the
source only stores and compares them, and they come from finite JSON numbers. -/
namespace Aise

inductive Change (α : Type) where
  | unchanged
  | replaced (value : α)
  deriving DecidableEq

/-- The value after a change: the source's `if let Change::Replaced(value)`. -/
def Change.over (change : Change α) (current : α) : α :=
  match change with
  | .unchanged => current
  | .replaced value => value

structure PlayerContribution where
  raw : String
  processed : String
  deriving DecidableEq

structure TurnRequest where
  storyId : StoryId
  idempotencyKey : IdempotencyKey
  playerInput : String
  deriving DecidableEq

structure TurnSegment where
  text : String
  deriving DecidableEq

inductive TurnStatus where
  | pass | choice
  deriving DecidableEq

structure TurnCheckEvaluation where
  name : String
  passed : Bool
  issue : Option BoundedText
  deriving DecidableEq

structure TurnScoreEvaluation where
  name : String
  minScore : Rat
  maxScore : Rat
  targetScore : Rat
  score : Rat
  issue : Option BoundedText
  deriving DecidableEq

structure TurnChoiceEvaluation where
  selectedProposalVersion : UInt32
  targetGapMse : Rat
  deriving DecidableEq

structure TurnEvaluation where
  proposalVersion : UInt32
  repairRounds : UInt32
  checks : List TurnCheckEvaluation
  scores : List TurnScoreEvaluation
  choice : Option TurnChoiceEvaluation
  deriving DecidableEq

structure Turn where
  turnNumber : TurnNumber
  idempotencyKey : IdempotencyKey
  playerContribution : PlayerContribution
  turnSegment : TurnSegment
  knowledgeChange : KnowledgeChange
  turnEvaluation : TurnEvaluation
  turnStatus : TurnStatus
  deriving DecidableEq

end Aise
