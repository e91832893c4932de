import Aise.Core.Activation.Rule

/-! Knowledge entries and the changes a turn makes to them. Facts, rumors and
memories have one body and one entry shape in the source; they differ by the kind
of their identifier and by which operations a turn may use. -/
namespace Aise
open SerdeJson

/-- A `u64` counter. It cannot wrap: a store keeps the commit of every turn of a story, so the
number is the size of a map in memory (`Reachable.size_committed`), which is a `usize`. -/
structure TurnNumber where
  value : Nat
  deriving DecidableEq

def TurnNumber.increment (turn : TurnNumber) : TurnNumber := ⟨turn.value + 1⟩

@[simp] theorem TurnNumber.increment_value (turn : TurnNumber) :
    turn.increment.value = turn.value + 1 := rfl

inductive EntryOrigin where
  | seed
  | turn (number : TurnNumber)
  deriving DecidableEq

structure KnowledgeBody where
  content : BoundedText
  activation : ActivationRule := {}
  retrieval : RetrievalHint
  deriving DecidableEq

abbrev FactBody := KnowledgeBody
abbrev RumorBody := KnowledgeBody
abbrev MemoryBody := KnowledgeBody

structure KnowledgeEntry (kind : IdKind) where
  id : Ident kind
  origin : EntryOrigin
  body : KnowledgeBody
  deriving DecidableEq

abbrev FactEntry := KnowledgeEntry .fact
abbrev RumorEntry := KnowledgeEntry .rumor
abbrev MemoryEntry := KnowledgeEntry .memory

inductive FactChangeOp where
  | add (id : FactId) (body : FactBody)
  | update (id : FactId) (body : FactBody)
  deriving DecidableEq

inductive RumorChangeOp where
  | add (id : RumorId) (body : RumorBody)
  | update (id : RumorId) (body : RumorBody)
  | remove (id : RumorId)
  deriving DecidableEq

inductive RoleMemoryChangeOp where
  | add (roleId : RoleId) (id : MemoryId) (body : MemoryBody)
  | update (roleId : RoleId) (id : MemoryId) (body : MemoryBody)
  deriving DecidableEq

structure KnowledgeChange where
  facts : List FactChangeOp := []
  rumors : List RumorChangeOp := []
  memories : List RoleMemoryChangeOp := []
  deriving DecidableEq

def FactChangeOp.target : FactChangeOp → FactId
  | .add id _ | .update id _ => id

def RumorChangeOp.target : RumorChangeOp → RumorId
  | .add id _ | .update id _ | .remove id => id

def RoleMemoryChangeOp.target : RoleMemoryChangeOp → RoleId × MemoryId
  | .add roleId id _ | .update roleId id _ => (roleId, id)

def EntryOrigin.toJson : EntryOrigin → Json
  | .seed => .obj [("kind", .str "seed")]
  | .turn number => .obj [("kind", .str "turn"), ("turn", .num number.value)]

def KnowledgeBody.toJson (body : KnowledgeBody) : Json := .obj [
  ("content", body.content.toJson),
  ("activation", body.activation.toJson),
  ("retrieval", body.retrieval.text.toJson)]

def KnowledgeEntry.toJson (entry : KnowledgeEntry kind) : Json := .obj [
  ("id", .str entry.id.value),
  ("origin", entry.origin.toJson),
  ("body", entry.body.toJson)]

end Aise
