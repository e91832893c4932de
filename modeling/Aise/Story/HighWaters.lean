import Aise.Lib.Numbering
import Aise.Story.Acceptance

/-! The high waters of a story over its runs. There are two producers of change sets: validation,
which counts on from the snapshot, and the runtime, which writes zeros. -/
namespace Aise.Domain

namespace ValidatedChangeSet

/-- The identifiers that the turn gives to new knowledge. -/
def newKnowledge (changes : ValidatedChangeSet) : List KnowledgeSourceId :=
  changes.knowledgeMutations.filterMap (·.operation.takes)

def newRoleIds (changes : ValidatedChangeSet) : List RoleId := changes.newRoles.map (·.roleId)

end ValidatedChangeSet

end Aise.Domain

namespace Aise.Domain.Persistence
open Numbering

section
variable {around : Surroundings}

/-- No high water goes back in the course of a story, and everything that was given out is below
them, once. -/
structure HighWatersKept (start : StoredStory) (moves : List (Move around)) (story : StoredStory) :
    Prop where
  rise : ∀ move ∈ moves, move.before.knowledgeIdHighWater.get ≤ move.after.knowledgeIdHighWater.get ∧
    move.before.roleIdHighWater.get ≤ move.after.roleIdHighWater.get
  knowledge : Covered (fun id => some id.sequence)
    (start.knowledge.keys ++ moves.flatMap (·.turn.changes.newKnowledge))
    story.knowledgeIdHighWater.get.toNat
  roles : Covered (·.dynamicSequence) (moves.flatMap (·.turn.changes.newRoleIds))
    story.roleIdHighWater.get.toNat

end

/-! ### What a turn gives out -/

section
variable {around : Surroundings} {start story next : StoredStory}

theorem ConstructedTurn.reset (turn : ConstructedTurn around story next) :
    turn.changes.newKnowledge = [] ∧ turn.changes.newRoleIds = [] ∧
      next.knowledgeIdHighWater.get = 0 ∧ next.roleIdHighWater.get = 0 := by
  have reset := CandidateTurn.constructChangeset_eq_ok turn.built
  refine ⟨?_, ?_, ?_, ?_⟩
  · rw [ValidatedChangeSet.newKnowledge, reset.mutations]
    rfl
  · rw [ValidatedChangeSet.newRoleIds, reset.newRoles]
    rfl
  · rw [turn.commits.knowledgeHighWater, turn.committing, reset.knowledgeHighWater]
  · rw [turn.commits.roleHighWater, turn.committing, reset.roleHighWater]

section
variable (turn : StoryTurn around story next)
include turn

theorem StoryTurn.grantsKnowledge : Granted (fun id => some id.sequence)
    story.knowledgeIdHighWater.get.toNat turn.changes.newKnowledge next.knowledgeIdHighWater.get.toNat := by
  obtain ⟨parts, state, resolution, from', snapshot, _⟩ := turn.builtFrom
  have stated := buildStateParts_eq_ok from'.built
  obtain ⟨made, allocation, allocated, same, operations, enriched⟩ :=
    enrichExtractedKnowledge_eq_ok stated.knowledge
  obtain ⟨above, distinct, fresh⟩ := allocateKnowledgeIds_fresh allocated
  rw [snapshot, turn.shows.knowledgeHighWater] at above fresh
  have taken : turn.changes.newKnowledge = made.added.map (·.sourceId) := by
    rw [ValidatedChangeSet.newKnowledge, from'.mutations, ← enriched.filterMap_takes, ← operations,
      List.filterMap_map]
    rfl
  obtain ⟨rest, assigned⟩ := enriched.taken
  have highWater : next.knowledgeIdHighWater.get = allocation.newHighWater := by
    rw [turn.commits.knowledgeHighWater, turn.committing, from'.knowledgeHighWater, same]
  rw [taken, highWater]
  refine ⟨UInt64.le_iff_toNat_le.mp above, fun id member => ?_, ?_⟩
  · have among : id ∈ allocation.assigned := assigned ▸ List.mem_append_left rest member
    exact ⟨_, rfl, fresh id among⟩
  · exact (assigned ▸ distinct).of_append_left

theorem StoryTurn.grantsRoles (valid : runDeterministic turn.turn = []) : Granted (·.dynamicSequence)
    story.roleIdHighWater.get.toNat turn.changes.newRoleIds next.roleIdHighWater.get.toNat := by
  obtain ⟨parts, state, resolution, from', snapshot, _⟩ := turn.builtFrom
  obtain ⟨_, extracted, _, _⟩ := CandidateTurn.parts_eq_ok from'.parted
  have clean := runDeterministic_eq_nil extracted turn.held valid
  have stated := buildStateParts_eq_ok from'.built
  rw [snapshot] at stated
  have highWater : next.roleIdHighWater.get =
      Saturating.add turn.snapshot.roleIdHighWater (Saturating.clamp64 state.newRoles.length) := by
    rw [turn.commits.roleHighWater, turn.committing, from'.roleHighWater, snapshot]
  obtain ⟨roles, _, same⟩ := turn.shows.roles
  rw [ValidatedChangeSet.newRoleIds, from'.newRoles, highWater, ← turn.shows.roleHighWater]
  refine ⟨?_, fun roleId member => ?_, (fresh_newRoles clean stated same).1⟩
  · rw [Saturating.toNat_add]
    have bound := Saturating.toNat_le turn.snapshot.roleIdHighWater
    omega
  · obtain ⟨role, added, rfl⟩ := List.mem_map.mp member
    exact numbered_newRole clean stated added

end

/-- What a new story knows is below its high water. -/
theorem Foundation.covered {foundation : Foundation} (created : foundation.create around = .ok start) :
    Covered (fun id => some id.sequence) start.knowledge.keys start.knowledgeIdHighWater.get.toNat := by
  obtain ⟨spec, from', starts⟩ := Foundation.create_eq_ok created
  obtain ⟨_, _, _, _, _, kinds, allocation, rest, allocated, assigned, highWater⟩ :=
    materializeKnowledge_ok from'.knowledge
  obtain ⟨_, _, fresh⟩ := allocateKnowledgeIds_fresh allocated
  constructor
  · intro id member
    obtain ⟨entry, found⟩ := OrdMap.mem_iff_exists.mp (Std.ExtTreeMap.mem_keys.mp member)
    have among := List.mem_map_of_mem (f := (·.sourceId)) (insertKnowledge_mem starts.knowledge found)
    rw [start.knowledgeKeyed id entry found] at among
    have below := (fresh id (assigned ▸ List.mem_append_left rest among)).2
    rw [starts.knowledgeHighWater, highWater]
    exact ⟨_, rfl, below⟩
  · exact Std.ExtTreeMap.nodup_keys

/-- The condition under which a turn keeps the high waters. -/
def Move.Spares (move : Move around) : Prop :=
  move.turn.Constructs → move.before.knowledgeIdHighWater.get = 0 ∧ move.before.roleIdHighWater.get = 0

theorem CommittedTurn.grants (turn : CommittedTurn around story next)
    (spares : Move.Spares ⟨story, next, turn⟩) :
    Granted (fun id => some id.sequence) story.knowledgeIdHighWater.get.toNat turn.changes.newKnowledge
        next.knowledgeIdHighWater.get.toNat ∧
      Granted (·.dynamicSequence) story.roleIdHighWater.get.toNat turn.changes.newRoleIds
        next.roleIdHighWater.get.toNat := by
  cases turn with
  | validated turn valid => exact ⟨turn.grantsKnowledge, turn.grantsRoles valid⟩
  | constructed turn =>
    obtain ⟨knowledge, roles⟩ := spares trivial
    obtain ⟨noKnowledge, noRoles, knowledgeNext, rolesNext⟩ := turn.reset
    constructor
    · rw [CommittedTurn.changes, noKnowledge, knowledge, knowledgeNext]
      exact .nil (Nat.le_refl _)
    · rw [CommittedTurn.changes, noRoles, roles, rolesNext]
      exact .nil (Nat.le_refl _)

theorem Course.kept {moves : List (Move around)} (course : Course start moves story)
    (initial : Covered (fun id => some id.sequence) start.knowledge.keys
      start.knowledgeIdHighWater.get.toNat)
    (spares : ∀ move ∈ moves, move.Spares) : HighWatersKept start moves story := by
  induction course with
  | created =>
    refine ⟨fun _ member => absurd member List.not_mem_nil, ?_, .nil⟩
    rw [List.flatMap_nil, List.append_nil]
    exact initial
  | turned _ turn ih =>
    obtain ⟨before, last⟩ := List.forall_mem_append.mp spares
    obtain ⟨rise, knowledge, roles⟩ := ih before
    obtain ⟨newKnowledge, newRoles⟩ := turn.grants (last _ (List.mem_singleton_self _))
    refine ⟨List.forall_mem_append.mpr ⟨rise, List.forall_mem_singleton.mpr ⟨?_, ?_⟩⟩, ?_, ?_⟩
    · exact UInt64.le_iff_toNat_le.mpr newKnowledge.rises
    · exact UInt64.le_iff_toNat_le.mpr newRoles.rises
    · rw [List.flatMap_append, List.flatMap_singleton, ← List.append_assoc]
      exact knowledge.append newKnowledge
    · rw [List.flatMap_append, List.flatMap_singleton]
      exact roles.append newRoles

/-- The high waters of a story are kept exactly if the runtime commits change sets of its own only
while both are zero. -/
theorem high_waters_kept_iff {foundation : Foundation} {moves : List (Move around)}
    (created : foundation.create around = .ok start) (course : Course start moves story) :
    HighWatersKept start moves story ↔ ∀ move ∈ moves, move.turn.Constructs →
      move.before.knowledgeIdHighWater.get = 0 ∧ move.before.roleIdHighWater.get = 0 := by
  constructor
  · intro kept move member constructs
    obtain ⟨knowledge, roles⟩ := kept.rise move member
    obtain ⟨before, after, turn⟩ := move
    cases turn with
    | validated turn valid => exact absurd constructs not_false
    | constructed turn =>
      obtain ⟨-, -, knowledgeNext, rolesNext⟩ := turn.reset
      dsimp only at knowledge roles
      rw [knowledgeNext] at knowledge
      rw [rolesNext] at roles
      exact ⟨UInt64.le_zero_iff.mp knowledge, UInt64.le_zero_iff.mp roles⟩
  · exact course.kept (Foundation.covered created)

end

namespace HighWaters.Sample
open Run.Sample FactValues.Sample

/-- The river's fact has the first number, and the turn gives that number back. -/
theorem river_number_reset :
    ¬∀ (around : Surroundings) (foundation : Foundation) (start story : StoredStory)
      (moves : List (Move around)), foundation.create around = .ok start → Course start moves story →
        HighWatersKept start moves story := by
  intro kept
  obtain ⟨start, snapshot, created, -, constructs⟩ := opening_eq (rivers none)
    (fun opened => (Course.Sample.constructing Course.Sample.first opened.1).any fun next =>
      decide (next.knowledgeIdHighWater.get < opened.1.knowledgeIdHighWater.get)) (by decide +kernel)
  obtain ⟨spec, _, starts⟩ := Foundation.create_eq_ok created
  have fresh : start.turns.find? (·.idempotencyKey = "stop") = none := by
    rw [starts.turns]
    rfl
  obtain ⟨next, ⟨turn⟩, checked⟩ := Course.Sample.constructing_eq fresh _ constructs
  have course := Course.turned .created (.constructed turn)
  have rises := ((kept around (rivers none) start next _ created course).rise _
    (List.mem_singleton_self _)).1
  exact absurd rises (UInt64.not_le.mpr (of_decide_eq_true checked))

/-- A turn with a new role and a new fact keeps the high waters. -/
theorem arrival_numbered : ∃ (start next : StoredStory) (turn : StoryTurn around start next)
    (valid : runDeterministic turn.turn = []),
      turn.changes.newRoleIds.map (·.value) = ["role_0001"] ∧
        HighWatersKept start [⟨start, next, .validated turn valid⟩] next := by
  obtain ⟨start, next, created, turn, same, checked⟩ := played_eq Acceptance.Sample.quiet
    Acceptance.Sample.arrival {} (fun played => decide (runDeterministic played.turn = []) &&
      decide (played.changes.newRoleIds.map (·.value) = ["role_0001"])) (by decide +kernel)
  simp only [Bool.and_eq_true, decide_eq_true_eq] at checked
  obtain ⟨valid, named⟩ := checked
  refine ⟨start, next, turn, valid, named, ?_⟩
  refine (high_waters_kept_iff created (.turned .created (.validated turn valid))).mpr ?_
  intro move member constructs
  cases List.mem_singleton.mp member
  exact absurd constructs not_false

end HighWaters.Sample

end Aise.Domain.Persistence
