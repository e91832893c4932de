import Aise.Core.Turn
import Aise.Core.Role
import Aise.Core.Narrative.Graph

/-! Story packs, the snapshot and instance built from one, and the running story.
A bundle can only be assembled with the pack reference of its own snapshot. -/
namespace Aise

structure StoryPackMeta where
  creator : BoundedText
  version : SemanticVersion
  tags : List BoundedText := []

structure StoryPackProfile where
  title : BoundedText
  description : Option BoundedText := none
  genres : List BoundedText := []
  themes : List BoundedText := []
  tones : List BoundedText := []
  pointOfView : BoundedText
  tense : BoundedText

structure StoryPack where
  packId : PackId
  packMeta : StoryPackMeta
  profile : StoryPackProfile
  roles : BTreeMap .role SeedRole
  /-- `PlayDefinition::playable_roles`, an ordered set. -/
  playableRoles : Std.ExtTreeSet RoleId
  opening : BoundedText
  seedFacts : BTreeMap .fact FactBody := ∅
  seedRumors : BTreeMap .rumor RumorBody := ∅
  constraints : List BoundedText := []
  narrative : Option NarrativeGraph := none

structure PackRef where
  packId : PackId
  version : SemanticVersion
  digest : Sha256Digest
  deriving DecidableEq

namespace StoryPack

def validatePlay (pack : StoryPack) : Except StoryError Unit :=
  if pack.playableRoles.isEmpty then .error .noPlayableRole
  else match pack.playableRoles.toList.find? (fun roleId => !pack.roles.contains roleId) with
    | some roleId => .error (.unknownRole "play.playable_roles" (toString roleId))
    | none => .ok ()

def validateRoles (pack : StoryPack) : Except StoryError Unit := validateSeedRoles pack.roles

def validateNarrative (pack : StoryPack) : Except NarrativeError Unit :=
  match pack.narrative with
  | some graph => graph.validate
  | none => .ok ()

/-- `canonical` stands for the SHA-256 digest of the serialized pack. -/
def packRef (canonical : StoryPack → Except CoreError Sha256Digest) (pack : StoryPack) :
    Except CoreError PackRef := do
  let digest ← canonical pack
  return { packId := pack.packId, version := pack.packMeta.version, digest }

end StoryPack

structure StoryPackSnapshot where
  packRef : PackRef
  pack : StoryPack

def StoryPackSnapshot.fromPack (canonical : StoryPack → Except CoreError Sha256Digest)
    (pack : StoryPack) : Except CoreError StoryPackSnapshot := do
  let packRef ← pack.packRef canonical
  return { packRef, pack }

structure StoryInstanceSpec where
  storyId : StoryId
  packRef : PackRef
  opening : BoundedText
  roles : BTreeMap .role RoleEntry
  facts : BTreeMap .fact FactEntry
  rumors : BTreeMap .rumor RumorEntry
  playerId : PlayerId
  playerRole : RoleId
  narrative : NarrativeState

structure StoryCreateBundle where
  snapshot : StoryPackSnapshot
  instanceSpec : StoryInstanceSpec
  bound : instanceSpec.packRef = snapshot.packRef

def StoryCreateBundle.assemble (snapshot : StoryPackSnapshot) (storyId : StoryId)
    (opening : BoundedText) (roles : BTreeMap .role RoleEntry) (facts : BTreeMap .fact FactEntry)
    (rumors : BTreeMap .rumor RumorEntry) (playerId : PlayerId) (playerRole : RoleId)
    (narrative : NarrativeState) : StoryCreateBundle where
  snapshot := snapshot
  instanceSpec :=
    { storyId, packRef := snapshot.packRef, opening, roles, facts, rumors
      playerId, playerRole, narrative }
  bound := rfl

inductive StoryLifeCycle where
  | active | cancelled | completed
  deriving DecidableEq

/-- A point in time; the store only copies it. -/
structure DateTime where
  nanos : Int
  deriving DecidableEq

structure StoryInstanceInfo where
  storyId : StoryId
  playerId : PlayerId
  description : String
  createdAt : DateTime
  updatedAt : DateTime
  lifeCycle : StoryLifeCycle
  deriving DecidableEq

structure StorySummary where
  text : String
  coveredThrough : TurnNumber
  deriving DecidableEq

structure StoryContext where
  storyId : StoryId
  packRef : PackRef
  opening : BoundedText
  roles : BTreeMap .role RoleEntry
  facts : BTreeMap .fact FactEntry
  rumors : BTreeMap .rumor RumorEntry
  player : RoleId
  turnNumber : TurnNumber
  summary : Option StorySummary
  recentTurns : List Turn
  lifeCycle : StoryLifeCycle
  narrative : NarrativeState
  deriving DecidableEq

structure StoryCommit where
  storyId : StoryId
  turn : Turn
  summary : Change StorySummary
  narrative : Change NarrativeState
  lifeCycle : Change StoryLifeCycle
  deriving DecidableEq

namespace StoryContext

/-- The last turn the summary accounts for; zero before the first summary. -/
def coveredThrough (context : StoryContext) : Nat :=
  (context.summary.map (·.coveredThrough.value)).getD 0

/-- The memory a role keeps under an id. -/
def memory? (context : StoryContext) (target : RoleId × MemoryId) : Option MemoryEntry :=
  context.roles[target.1]?.bind (·.memories[target.2]?)

end StoryContext

/-! A pack of one role, one fact and one rumor. -/
namespace Sample

def now : DateTime := ⟨0⟩
def storyId : StoryId := ⟨"story-1", by decide⟩
def packRef : PackRef := ⟨⟨"pack", by decide⟩, ⟨"1.0.0", by decide⟩, ⟨"digest", by decide⟩⟩
def hint : RetrievalHint := ⟨⟨"when asked"⟩, "when asked", by decide⟩
def body (text : String) : KnowledgeBody := { content := ⟨text⟩, retrieval := hint }
def hero : RoleId := ⟨"hero", by decide⟩
def factId : FactId := ⟨"the_gate", by decide⟩
def rumorId : RumorId := ⟨"the_wolf", by decide⟩
def memoryId : MemoryId := ⟨"childhood", by decide⟩
def newFactId : FactId := ⟨"fact_t1_1", by decide⟩
def newMemoryId : MemoryId := ⟨"mem_t1_1", by decide⟩
def playerId : PlayerId := ⟨"player", by decide⟩

def pack : StoryPack where
  packId := packRef.packId
  packMeta := ⟨⟨"someone"⟩, packRef.version, []⟩
  profile := ⟨⟨"A road"⟩, none, [], [], [], ⟨"second"⟩, ⟨"present"⟩⟩
  roles := (∅ : BTreeMap .role SeedRole).insert hero
    { spec := { name := ⟨"Hero"⟩, backstory := ⟨"Born by the road."⟩, retrieval := hint }
      defaultProfile := {}
      seedMemories := (∅ : BTreeMap .memory MemoryBody).insert memoryId (body "a song") }
  playableRoles := (∅ : Std.ExtTreeSet RoleId).insert hero
  opening := ⟨"It begins."⟩
  seedFacts := (∅ : BTreeMap .fact FactBody).insert factId (body "The gate is shut.")
  seedRumors := (∅ : BTreeMap .rumor RumorBody).insert rumorId (body "A wolf is near.")

end Sample
end Aise
