import Aise.Turn.Enrichment
import Aise.Validation.Clean

/-! The entries that the changes of a valid extraction are about. No two changes are about the same
entry, so they can be made in any order. -/
namespace Aise.Domain
open ValidatedKnowledgeOperation (takes needs Independent)

/-! ### Targets -/

theorem knowledgeIdOf_eq_some {kind : KnowledgeKind} {value : String} {id : KnowledgeId kind}
    (resolved : knowledgeIdOf kind value = some id) : id.1.asStr = value := by
  unfold knowledgeIdOf at resolved
  split at resolved
  · cases resolved
    rfl
  · cases resolved

/-- The entries that an extraction updates or deletes, by kind and text. -/
def StoryStateExtractionDto.targets (dto : StoryStateExtractionDto) : List (KnowledgeKind × String) :=
  dto.updateFacts.map (fun update => (.fact, update.id)) ++
    dto.updateRumors.map (fun update => (.rumor, update.id)) ++
    dto.deleteRumorIds.map (fun rawId => (.rumor, rawId)) ++
    dto.updateMemories.map (fun update => (.memory, update.id)) ++
    dto.deleteMemoryIds.map (fun rawId => (.memory, rawId))

section
variable {externals : Externals} {engine : RegexEngine} {context : KnowledgeEnrichmentContext}
  {snapshot : StorySnapshot} {newRoles : List StoryRole} {dto : StoryStateExtractionDto}
  {parts : KnowledgeParts} {assigned : List KnowledgeSourceId}

/-- Every entry is the target of one change at most. -/
theorem CleanSchema.nodup_targets {limits : StoryStateExtractionLimits}
    (clean : CleanSchema limits dto) : (dto.targets).Nodup := by
  have kinds : ∀ (kind : KnowledgeKind) (texts : List String), texts.Nodup →
      (texts.map fun text => (kind, text)).Nodup := fun kind texts distinct =>
    distinct.map fun _ _ same => (Prod.mk.inj same).2
  have facts := kinds .fact _ clean.factTargets.1
  have rumors : (dto.updateRumors.map (·.id) ++ dto.deleteRumorIds).Nodup := by
    have deletions := clean.deleteRumors.1
    rw [List.map_id] at deletions
    refine clean.rumorTargets.1.append deletions fun text updated deleted => ?_
    exact clean.deleteRumors.2 text deleted (List.mem_reverse.mpr updated)
  have memories : (dto.updateMemories.map (·.id) ++ dto.deleteMemoryIds).Nodup := by
    have deletions := clean.deleteMemories.1
    rw [List.map_id] at deletions
    refine clean.memoryTargets.1.append deletions fun text updated deleted => ?_
    exact clean.deleteMemories.2 text deleted (List.mem_reverse.mpr updated)
  have private' := kinds .memory _ memories
  have shared := kinds .rumor _ rumors
  rw [List.map_map] at facts
  rw [List.map_append, List.map_map] at private' shared
  have apart := (facts.append shared ?_).append private' ?_
  · simpa [StoryStateExtractionDto.targets, Function.comp_def] using apart
  · intro pair fact rumor
    obtain ⟨_, _, rfl⟩ := List.mem_map.mp fact
    simp at rumor
  · intro pair others memory
    simp only [List.mem_append, List.mem_map, Function.comp_apply] at others memory
    obtain ⟨_, _, rfl⟩ | ⟨_, _, rfl⟩ | ⟨_, _, rfl⟩ := others
    all_goals simp at memory

variable (enriched : EnrichedFrom externals engine context snapshot newRoles dto parts assigned)
include enriched

/-- The identifiers that are taken are those of the additions. -/
theorem EnrichedFrom.filterMap_takes :
    parts.operations.filterMap takes = parts.added.map (·.sourceId) := by
  have additions : ∀ entries : List KnowledgeEntry,
      (entries.map ValidatedKnowledgeOperation.add).filterMap takes = entries.map (·.sourceId) := by
    intro entries
    rw [List.filterMap_map, ← List.filterMap_eq_map]
    rfl
  have others : ∀ {α : Type} {R : α → ValidatedKnowledgeOperation → Prop} {items : List α}
      {operations : List ValidatedKnowledgeOperation}, List.Forall₂ R items operations →
        (∀ {item operation}, R item operation → operation.takes = none) →
          operations.filterMap takes = [] := by
    intro α R items operations related none
    rw [List.filterMap_eq_nil_iff]
    intro operation member
    obtain ⟨item, _, here⟩ := Result.exists_of_forall₂ related member
    exact none here
  simp only [KnowledgeParts.operations, KnowledgeParts.added, List.filterMap_append, additions,
    List.map_append]
  rw [others enriched.updatedFacts, others enriched.updatedRumors, others enriched.deletedRumors,
    others enriched.updatedMemories, others enriched.deletedMemories]
  · simp only [List.append_nil]
  · intro rawId operation made
    obtain ⟨_, _, _, _, rfl⟩ := deleteMemory_eq_ok made
    rfl
  · intro update operation made
    obtain ⟨_, _, _, _, _, _, rfl, _⟩ := updateMemory_eq_ok made
    rfl
  · intro rawId operation made
    obtain ⟨_, _, _, _, rfl⟩ := deleteRumor_eq_ok made
    rfl
  · intro update operation made
    obtain ⟨_, _, _, _, _, rfl, _⟩ := updateRumor_eq_ok made
    rfl
  · intro update operation made
    obtain ⟨_, _, _, _, _, rfl, _⟩ := updateFact_eq_ok made
    rfl

/-- The identifiers that are needed are the targets of the extraction. -/
theorem EnrichedFrom.filterMap_needs :
    (parts.operations.filterMap needs).map (fun id => (id.kind, id.asStr)) =
      dto.targets := by
  have additions : ∀ entries : List KnowledgeEntry,
      (entries.map ValidatedKnowledgeOperation.add).filterMap needs = [] := by
    intro entries
    rw [List.filterMap_map, List.filterMap_eq_nil_iff]
    exact fun _ _ => rfl
  let view (id : KnowledgeSourceId) := (id.kind, id.asStr)
  have facts := Result.filterMap_of_forall₂ needs view (fun update => (.fact, update.id))
    enriched.updatedFacts fun made => by
      obtain ⟨target, _, _, resolved, _, rfl, _⟩ := updateFact_eq_ok made
      exact congrArg some (Prod.ext target.2 (knowledgeIdOf_eq_some resolved))
  have rumors := Result.filterMap_of_forall₂ needs view (fun update => (.rumor, update.id))
    enriched.updatedRumors fun made => by
      obtain ⟨target, _, _, resolved, _, rfl, _⟩ := updateRumor_eq_ok made
      exact congrArg some (Prod.ext target.2 (knowledgeIdOf_eq_some resolved))
  have noRumors := Result.filterMap_of_forall₂ needs view (fun rawId => (.rumor, rawId))
    enriched.deletedRumors fun made => by
      obtain ⟨target, _, resolved, _, rfl⟩ := deleteRumor_eq_ok made
      exact congrArg some (Prod.ext target.2 (knowledgeIdOf_eq_some resolved))
  have memories := Result.filterMap_of_forall₂ needs view (fun update => (.memory, update.id))
    enriched.updatedMemories fun made => by
      obtain ⟨target, _, _, _, resolved, _, rfl, _⟩ := updateMemory_eq_ok made
      exact congrArg some (Prod.ext target.2 (knowledgeIdOf_eq_some resolved))
  have noMemories := Result.filterMap_of_forall₂ needs view (fun rawId => (.memory, rawId))
    enriched.deletedMemories fun made => by
      obtain ⟨target, _, resolved, _, rfl⟩ := deleteMemory_eq_ok made
      exact congrArg some (Prod.ext target.2 (knowledgeIdOf_eq_some resolved))
  simp only [KnowledgeParts.operations, List.filterMap_append, additions, List.map_append,
    List.nil_append, List.append_nil, StoryStateExtractionDto.targets]
  rw [facts, rumors, noRumors, memories, noMemories]

/-- The operations of a turn do not get in each other's way. -/
theorem EnrichedFrom.independent {limits : StoryStateExtractionLimits}
    (clean : CleanSchema limits dto) (distinct : assigned.Nodup) :
    parts.operations.Pairwise Independent := by
  obtain ⟨rest, taken⟩ := enriched.taken
  have takes_once : (parts.operations.filterMap takes).Nodup := by
    rw [enriched.filterMap_takes]
    rw [taken] at distinct
    exact distinct.of_append_left
  have needs_once : (parts.operations.filterMap needs).Nodup := by
    refine List.Nodup.of_map (fun id => (id.kind, id.asStr)) ?_
    rw [enriched.filterMap_needs]
    exact clean.nodup_targets
  have apartTakes := List.pairwise_filterMap.mp takes_once
  have apartNeeds := List.pairwise_filterMap.mp needs_once
  refine (apartTakes.and apartNeeds).imp ?_
  rintro earlier later ⟨takes, needs⟩
  refine ⟨fun id first second => takes id first id second rfl, fun id freed needed => ?_⟩
  refine needs id ?_ id needed rfl
  cases earlier with
  | add entry => cases freed
  | update target value => cases freed
  | delete target => exact freed

end

end Aise.Domain
