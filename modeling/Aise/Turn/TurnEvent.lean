import Aise.Persistence.SqliteStore
import Aise.Turn.TurnValidation

/-! What a turn tells its client while it runs, and how it ended. -/
namespace Aise.Domain
open Persistence (CommittedTurnResult)

inductive TurnEvent where
  | stageStarted (turnNumber : Option TurnNumber) (stage : TurnStage)
  | validationCompleted (turnNumber : Option TurnNumber) (attempt : UInt32)
      (decision : ValidationDecision) (issueCodes : List ValidationIssueCode)
  | committed (result : CommittedTurnResult) (replayed : Bool)
  | failed (turnNumber : Option TurnNumber) (code : String)
  | cancelled (turnNumber : Option TurnNumber) (code : String)
  | conflict (turnNumber : Option TurnNumber) (code : String)

def TurnEvent.isTerminal : TurnEvent → Bool
  | committed .. | failed .. | cancelled .. | conflict .. => true
  | stageStarted .. | validationCompleted .. => false

inductive TurnEventDeliveryError where
  | progressBackpressure | terminalAlreadySent | clientDisconnected
  deriving DecidableEq

end Aise.Domain
