import Aise.Pipeline.Generate.Roles

/-! A plan that was accepted gives the later stages nothing to refuse but sizes. The
stages check the same identifiers again, each in its own way; all of it follows from the
selections being distinct, offered, and offered only from the story without its player. -/
namespace Aise

namespace PlanLlm
variable {context : StoryContext} {output : PlanOutput}

/-- What the parser guarantees of the identifiers of a plan. -/
structure Sound (context : StoryContext) (output : PlanOutput) : Prop where
  facts : ∀ factId ∈ output.factsToRetrieve, factId ∈ context.facts
  rumors : ∀ rumorId ∈ output.rumorsToRetrieve, rumorId ∈ context.rumors
  roles : ∀ roleId ∈ output.rolesForGeneration, roleId ∈ context.roles ∧ roleId ≠ context.player
  requestsDistinct : (output.characterThinkRequests.map (·.roleId)).Nodup
  requests : ∀ request ∈ output.characterThinkRequests,
    request.roleId ∈ context.roles ∧ request.roleId ≠ context.player

theorem validateIds_offered (accepted : validateIds offered duplicate unknown ids = .ok results) :
    ∀ chosen ∈ ids, offered chosen = true := by
  intro chosen member
  obtain ⟨_, checked⟩ := Distinct.each_checked accepted chosen member
  simpa using rejectIf_ok_iff.mp checked

theorem offeredRole {roleId : RoleId}
    (offered : rejectIf (!containsRole (collectRoleCatalog context context.player) roleId) error =
      .ok ()) : roleId ∈ context.roles ∧ roleId ≠ context.player := by
  apply (containsRole_iff context context.player roleId).mp
  simpa using rejectIf_ok_iff.mp offered

theorem validateGenerationRoles_offered
    (accepted : validateGenerationRoles roleIds (collectRoleCatalog context context.player)
      context.player config = .ok results) :
    ∀ roleId ∈ roleIds, roleId ∈ context.roles ∧ roleId ≠ context.player := by
  intro roleId member
  obtain ⟨_, _, accepted⟩ := Result.bind_eq_ok accepted
  obtain ⟨_, checked⟩ := Distinct.each_checked accepted roleId member
  obtain ⟨_, _, offered⟩ := Result.bind_eq_ok checked
  exact offeredRole offered

theorem validateCharacterThinkRequest_ok
    (accepted : validateCharacterThinkRequest (collectRoleCatalog context context.player)
      context.player config dto = .ok request) :
    request.roleId = dto.roleId ∧ dto.roleId ∈ context.roles ∧ dto.roleId ≠ context.player := by
  obtain ⟨_, _, accepted⟩ := Result.bind_eq_ok accepted
  obtain ⟨_, offered, accepted⟩ := Result.bind_eq_ok accepted
  obtain ⟨_, _, accepted⟩ := Result.bind_eq_ok accepted
  obtain ⟨_, _, accepted⟩ := Result.bind_eq_ok accepted
  split at accepted
  · cases accepted
    exact ⟨rfl, offeredRole offered⟩
  · cases accepted

theorem requests_of_forall₂
    (each : List.Forall₂ (fun dto request => validateCharacterThinkRequest
      (collectRoleCatalog context context.player) context.player config dto = .ok request)
      dtos requests) :
    requests.map (·.roleId) = dtos.map (·.roleId) ∧
      ∀ request ∈ requests, request.roleId ∈ context.roles ∧ request.roleId ≠ context.player := by
  induction each with
  | nil => simp
  | cons accepted _ ih =>
    obtain ⟨same, offered⟩ := validateCharacterThinkRequest_ok accepted
    refine ⟨by rw [List.map_cons, List.map_cons, same, ih.1], ?_⟩
    exact List.forall_mem_cons.mpr ⟨same ▸ offered, ih.2⟩

theorem parsePlanOutput_sound
    (accepted : parsePlanOutput fromStr raw (collectCandidates context activated limit)
      (collectRoleCatalog context context.player) context.player config = .ok output) :
    Sound context output := by
  simp only [parsePlanOutput] at accepted
  split at accepted
  · cases accepted
  · obtain ⟨_, _, accepted⟩ := Result.bind_eq_ok accepted
    obtain ⟨_, _, accepted⟩ := Result.bind_eq_ok accepted
    obtain ⟨_, facts, accepted⟩ := Result.bind_eq_ok accepted
    obtain ⟨_, rumors, accepted⟩ := Result.bind_eq_ok accepted
    obtain ⟨_, roles, accepted⟩ := Result.bind_eq_ok accepted
    obtain ⟨requests, requested, accepted⟩ := Result.bind_eq_ok accepted
    obtain ⟨_, _, requested⟩ := Result.bind_eq_ok requested
    obtain ⟨same, offered⟩ := requests_of_forall₂ (Distinct.each_ok_iff.mp requested).2.2
    split at accepted
    · cases accepted
    · cases accepted
      exact {
        facts := fun factId member => containsFact_mem (validateIds_offered facts factId member)
        rumors := fun rumorId member => containsRumor_mem (validateIds_offered rumors rumorId member)
        roles := validateGenerationRoles_offered roles
        requestsDistinct := same ▸ Distinct.each_distinct requested
        requests := offered }

end PlanLlm

section Stages
variable {context : StoryContext} {output : PlanOutput}

theorem effectiveRoleIds_nodup (output : PlanOutput) : (effectiveRoleIds output).Nodup :=
  Distinct.nodup_eraseDups _

theorem effectiveRoleIds_offered (sound : PlanLlm.Sound context output) :
    ∀ roleId ∈ effectiveRoleIds output, roleId ∈ context.roles ∧ roleId ≠ context.player := by
  intro roleId member
  rw [effectiveRoleIds, List.mem_eraseDups, List.mem_append] at member
  rcases member with planned | thinking
  · exact sound.roles roleId planned
  · obtain ⟨request, asked, rfl⟩ := List.mem_map.mp thinking
    exact sound.requests request asked

/-- Retrieval finds what the story knows. -/
theorem retrieval_total {factIds : List FactId} {rumorIds : List RumorId}
    (facts : ∀ factId ∈ factIds, factId ∈ context.facts)
    (rumors : ∀ rumorId ∈ rumorIds, rumorId ∈ context.rumors) :
    ∃ retrieved, RetrievalPipeline.execute factIds rumorIds context = .ok retrieved := by
  apply Result.bind_total
  · apply Result.mapM_total
    intro factId member
    obtain ⟨entry, found⟩ := OrdMap.mem_iff_exists.mp (facts factId member)
    exact ⟨entry, by simp only [found]⟩
  · intro facts _
    apply Result.bind_total
    · apply Result.mapM_total
      intro rumorId member
      obtain ⟨entry, found⟩ := OrdMap.mem_iff_exists.mp (rumors rumorId member)
      exact ⟨entry, by simp only [found]⟩
    · intro rumors _
      exact ⟨_, rfl⟩

theorem retrieval_ok (sound : PlanLlm.Sound context output) : ∃ retrieved,
    RetrievalPipeline.execute output.factsToRetrieve output.rumorsToRetrieve context =
      .ok retrieved :=
  retrieval_total sound.facts sound.rumors

theorem validateInput_ok (sound : PlanLlm.Sound context output)
    (input : ThinkInput) (requests : input.requests = output.characterThinkRequests) :
    ∃ roles, Think.validateInput input context = .ok roles := by
  apply Distinct.each_total
  · rw [requests]
    exact sound.requestsDistinct
  · simp
  · intro request member
    rw [requests] at member
    obtain ⟨known, other⟩ := sound.requests request member
    obtain ⟨role, found⟩ := OrdMap.mem_iff_exists.mp known
    refine ⟨role, ?_⟩
    simp only [Think.validateRequest, Think.resolveRequest, found, other, decide_false]
    rfl

end Stages

namespace GenerateRoles
variable {context : StoryContext}

/-- The codes left to the rendering of texts. -/
def sizeCodes : List String :=
  ["generate_role_projection_too_large", "generate_role_context_too_large",
    "generate_decision_context_too_large"]

/-- The error is about the size of a text. -/
def TooLarge (error : PipelineError) : Prop :=
  ∃ code ∈ sizeCodes, ∃ message, error = inconsistent code message

theorem rejectIf_tooLarge (size : code ∈ sizeCodes)
    (failed : rejectIf condition (inconsistent code message) = .error error) : TooLarge error := by
  cases condition with
  | false => cases failed
  | true =>
    cases failed
    exact ⟨code, size, message, rfl⟩

theorem renderRole_tooLarge (failed : renderRole role config = .error error) : TooLarge error := by
  rcases Result.bind_eq_error failed with identity | ⟨_, _, failed⟩
  · exact rejectIf_tooLarge (by simp [sizeCodes]) identity
  · rcases Result.bind_eq_error failed with backstory | ⟨_, _, failed⟩
    · simp only [renderBackstory] at backstory
      split at backstory
      · cases backstory
      · split at backstory
        · cases backstory
          exact ⟨_, by simp [sizeCodes], _, rfl⟩
        · split at backstory
          · cases backstory
          · cases backstory
            exact ⟨_, by simp [sizeCodes], _, rfl⟩
    · cases failed

theorem renderRolesFrom_tooLarge (failed : renderRolesFrom config rendered roles = .error error) :
    TooLarge error := by
  induction roles generalizing rendered with
  | nil => cases failed
  | cons role rest ih =>
    rcases Result.bind_eq_error failed with here | ⟨_, _, later⟩
    · exact renderRole_tooLarge here
    · exact ih later

theorem renderDecisionsFrom_tooLarge
    (failed : renderDecisionsFrom config rendered decisions = .error error) : TooLarge error := by
  induction decisions generalizing rendered with
  | nil => cases failed
  | cons decision rest ih =>
    rcases Result.bind_eq_error failed with here | ⟨_, _, later⟩
    · exact rejectIf_tooLarge (by simp [sizeCodes]) here
    · exact ih later

theorem renderContext_tooLarge (failed : renderContext player roles decisions config = .error error) :
    TooLarge error := by
  rcases Result.bind_eq_error failed with playerText | ⟨_, _, failed⟩
  · exact renderRole_tooLarge playerText
  · rcases Result.bind_eq_error failed with rolesText | ⟨_, _, failed⟩
    · exact renderRolesFrom_tooLarge rolesText
    · rcases Result.bind_eq_error failed with aggregate | ⟨_, _, failed⟩
      · exact rejectIf_tooLarge (by simp [sizeCodes]) aggregate
      · rcases Result.bind_eq_error failed with decisionsText | ⟨_, _, failed⟩
        · exact renderDecisionsFrom_tooLarge decisionsText
        · cases failed

theorem resolveRole_ok {roleId : RoleId} {role : RoleEntry}
    (found : context.roles[roleId]? = some role) : resolveRole context roleId = .ok role := by
  simp only [resolveRole, found]

theorem resolveRole_id
    (keyed : ∀ (roleId : RoleId) (role : RoleEntry), context.roles[roleId]? = some role →
      role.id = roleId)
    (resolved : resolveRole context roleId = .ok role) : role.id = roleId := by
  simp only [resolveRole] at resolved
  split at resolved
  · rename_i found
    cases resolved
    exact keyed roleId role found
  · cases resolved

theorem ids_of_forall₂
    (keyed : ∀ (roleId : RoleId) (role : RoleEntry), context.roles[roleId]? = some role →
      role.id = roleId)
    (each : List.Forall₂ (fun roleId role => resolveRole context roleId = .ok role) roleIds roles) :
    roles.map (·.id) = roleIds := by
  induction each with
  | nil => rfl
  | cons resolved _ ih => rw [List.map_cons, ih, resolveRole_id keyed resolved]

/-- The resolved roles, where the role map is keyed by the roles' own identifiers. -/
theorem resolveRoles_ok
    (keyed : ∀ (roleId : RoleId) (role : RoleEntry), context.roles[roleId]? = some role →
      role.id = roleId)
    (distinct : roleIds.Nodup) (known : ∀ roleId ∈ roleIds, roleId ∈ context.roles) :
    ∃ roles, resolveRoles context roleIds = .ok roles ∧ roles.map (·.id) = roleIds := by
  have resolved : ∀ roleId ∈ roleIds, ∃ role, resolveRole context roleId = .ok role := by
    intro roleId member
    obtain ⟨role, found⟩ := OrdMap.mem_iff_exists.mp (known roleId member)
    exact ⟨role, resolveRole_ok found⟩
  obtain ⟨roles, accepted⟩ : ∃ roles, resolveRoles context roleIds = .ok roles :=
    Distinct.each_total (by simpa using distinct) (by simp) resolved
  exact ⟨roles, accepted, ids_of_forall₂ keyed (Distinct.each_ok_iff.mp accepted).2.2⟩

theorem checkRoles_ok
    (keyed : ∀ (roleId : RoleId) (role : RoleEntry), context.roles[roleId]? = some role →
      role.id = roleId)
    (player : context.player ∈ context.roles) (distinct : roleIds.Nodup)
    (known : ∀ roleId ∈ roleIds, roleId ∈ context.roles ∧ roleId ≠ context.player)
    (decided : (decisions.map (·.roleId)).Nodup)
    (planned : ∀ decision ∈ decisions, decision.roleId ∈ roleIds) :
    ∃ result, checkRoles context roleIds decisions = .ok result := by
  obtain ⟨playerRole, found⟩ := OrdMap.mem_iff_exists.mp player
  have playerId := keyed _ _ found
  obtain ⟨roles, resolved, ids⟩ := resolveRoles_ok keyed distinct fun roleId member =>
    (known roleId member).1
  have present : ∀ roleId, roles.any (·.id = roleId) = true ↔ roleId ∈ roleIds := by
    intro roleId
    simp [← ids]
  have noPlayer : validateAiRoles playerRole roles = .ok () := by
    apply rejectIf_ok_iff.mpr
    rw [← Bool.not_eq_true, present, playerId]
    intro member
    exact (known _ member).2 rfl
  have noBadDecision : ∃ results, validateDecisions playerRole roles decisions = .ok results := by
    apply Distinct.each_total decided
    · intro decision member
      apply rejectIf_ok_iff.mpr
      rw [decide_eq_false_iff_not, playerId]
      exact (known _ (planned decision member)).2
    · intro decision member
      refine ⟨(), rejectIf_ok_iff.mpr ?_⟩
      rw [Bool.not_eq_false', present]
      exact planned decision member
  obtain ⟨_, noBadDecision⟩ := noBadDecision
  refine ⟨(playerRole, roles), ?_⟩
  rw [checkRoles, resolveRole_ok found]
  simp only [bind, Except.bind, resolved, noPlayer, noBadDecision]
  rfl

/-- The codes of the checks on identifiers. -/
def identifierCodes : List String :=
  ["generate_role_missing", "generate_duplicate_role_id", "generate_player_role_in_ai_roles",
    "generate_player_character_decision_forbidden", "generate_duplicate_character_decision",
    "generate_character_decision_role_missing"]

theorem projectRoleContext_identifiers
    (checked : checkRoles context roleIds decisions = .ok result) (code : String)
    (identifier : code ∈ identifierCodes) (message : String) :
    projectRoleContext context roleIds decisions config ≠
      .error (.inconsistentData .generate code message) := by
  intro failed
  obtain ⟨playerRole, roles⟩ := result
  simp only [projectRoleContext, checked, bind, Except.bind] at failed
  obtain ⟨other, size, _, same⟩ := renderContext_tooLarge failed
  cases same
  simp only [sizeCodes, identifierCodes, List.mem_cons, List.not_mem_nil, or_false] at size identifier
  rcases size with rfl | rfl | rfl <;> simp at identifier

end GenerateRoles

/-- Every later stage takes an accepted plan as it is. -/
theorem accepted_plan_safe {context : StoryContext} {playerRole : RoleEntry} {output : PlanOutput}
    (keyed : ∀ (roleId : RoleId) (role : RoleEntry), context.roles[roleId]? = some role →
      role.id = roleId)
    (resolved : resolvePlayerRole context = .ok playerRole)
    (accepted : PlanLlm.parsePlanOutput fromStr raw
      (collectCandidates context activated config.maxRetrievalCandidatesPerKind)
      (collectRoleCatalog context context.player) playerRole.id config = .ok output) :
    (effectiveRoleIds output).Nodup ∧
    (∀ roleId ∈ effectiveRoleIds output, roleId ∈ context.roles ∧ roleId ≠ context.player) ∧
    (∃ retrieved, RetrievalPipeline.execute output.factsToRetrieve output.rumorsToRetrieve context =
      .ok retrieved) ∧
    ∀ input : ThinkInput, input.requests = output.characterThinkRequests →
      (∃ roles, Think.validateInput input context = .ok roles) ∧
      ∀ (think : ThinkPipeline) (decisions : List CharacterDecision),
        think.think input context = .ok decisions →
        ∀ (generate : GenerateConfig) (message : String),
        ∀ code ∈ ["generate_role_missing", "generate_duplicate_role_id",
          "generate_player_role_in_ai_roles", "generate_player_character_decision_forbidden",
          "generate_duplicate_character_decision", "generate_character_decision_role_missing"],
          GenerateRoles.projectRoleContext context (effectiveRoleIds output) decisions generate ≠
            .error (.inconsistentData .generate code message) := by
  obtain ⟨player, playerId⟩ : context.player ∈ context.roles ∧ playerRole.id = context.player := by
    simp only [resolvePlayerRole] at resolved
    split at resolved
    · rename_i found
      cases resolved
      exact ⟨OrdMap.mem_iff_exists.mpr ⟨playerRole, found⟩, keyed _ _ found⟩
    · cases resolved
  rw [playerId] at accepted
  have sound := PlanLlm.parsePlanOutput_sound accepted
  have distinct := effectiveRoleIds_nodup output
  have offered := effectiveRoleIds_offered sound
  refine ⟨distinct, offered, retrieval_ok sound, fun input requests => ?_⟩
  refine ⟨validateInput_ok sound input requests, ?_⟩
  intro think decisions thought generate message code identifier
  have roleIds := ThinkPipeline.think_roleIds thought
  rw [requests] at roleIds
  have decided : (decisions.map (·.roleId)).Nodup := by
    rw [roleIds]
    exact sound.requestsDistinct
  have planned : ∀ decision ∈ decisions, decision.roleId ∈ effectiveRoleIds output := by
    intro decision member
    rw [effectiveRoleIds, List.mem_eraseDups, ← roleIds]
    exact List.mem_append_right _ (List.mem_map_of_mem member)
  obtain ⟨_, checked⟩ := GenerateRoles.checkRoles_ok keyed player distinct offered decided planned
  exact GenerateRoles.projectRoleContext_identifiers checked code identifier message

namespace Sample

def guide : RoleId := ⟨"guide", by decide⟩

def roleOf (roleId : RoleId) : RoleEntry where
  id := roleId
  origin := .seed
  spec := { name := ⟨roleId.value⟩, backstory := ⟨"From the valley."⟩, retrieval := hint }
  profile := {}

/-- The player's hero and a guide at the gate. -/
def party : StoryContext where
  storyId := storyId
  packRef := packRef
  opening := ⟨"It begins."⟩
  roles := (∅ : BTreeMap .role RoleEntry).insert hero (roleOf hero) |>.insert guide (roleOf guide)
  facts := (∅ : BTreeMap .fact FactEntry).insert factId
    { id := factId, origin := .seed, body := body "The gate is shut." }
  rumors := ∅
  player := hero
  turnNumber := ⟨0⟩
  summary := none
  recentTurns := []
  lifeCycle := .active
  narrative := {}

/-- The decoded form of a reply that lets the guide think about the gate. -/
def gatePlan : PlanLlmOutputDto where
  storyGoal := "Open the gate."
  factsToRetrieve := [factId]
  rumorsToRetrieve := []
  rolesForGeneration := [guide]
  characterThinkRequests := [⟨guide, "Who has the key?"⟩]

def planConfig : PlanConfig := {}

def gateReply : String :=
  "\x7b\"story_goal\":\"Open the gate.\",\"facts_to_retrieve\":[\"the_gate\"]," ++
  "\"rumors_to_retrieve\":[],\"roles_for_generation\":[\"guide\"]," ++
  "\"character_think_requests\":[\x7b\"role_id\":\"guide\"," ++
  "\"thinking_focus\":\"Who has the key?\"\x7d]\x7d"

def decodeGateReply (raw : String) : Except JsonError PlanLlmOutputDto :=
  if raw = gateReply then .ok gatePlan else .error ⟨1, 0, "expected value"⟩

end Sample

theorem gate_plan_safe : ∃ output,
    PlanLlm.parsePlanOutput Sample.decodeGateReply Sample.gateReply
      (collectCandidates Sample.party ⟨[], []⟩ Sample.planConfig.maxRetrievalCandidatesPerKind)
      (collectRoleCatalog Sample.party Sample.party.player) (Sample.roleOf Sample.hero).id
      Sample.planConfig = .ok output ∧
    effectiveRoleIds output = [Sample.guide] ∧ (effectiveRoleIds output).Nodup ∧
    ∃ retrieved, RetrievalPipeline.execute output.factsToRetrieve output.rumorsToRetrieve
      Sample.party = .ok retrieved := by
  have keyed : ∀ (roleId : RoleId) (role : RoleEntry), Sample.party.roles[roleId]? = some role →
      role.id = roleId := by
    intro roleId role found
    simp only [Sample.party, OrdMap.get_insert] at found
    split at found
    · rename_i same
      cases found
      exact same
    · split at found
      · rename_i same
        cases found
        exact same
      · simp at found
  have resolved : resolvePlayerRole Sample.party = .ok (Sample.roleOf Sample.hero) := by rfl
  have accepted : PlanLlm.parsePlanOutput Sample.decodeGateReply Sample.gateReply
      (collectCandidates Sample.party ⟨[], []⟩ Sample.planConfig.maxRetrievalCandidatesPerKind)
      (collectRoleCatalog Sample.party Sample.party.player) (Sample.roleOf Sample.hero).id
      Sample.planConfig =
      .ok ⟨⟨"Open the gate."⟩, [Sample.factId], [], [Sample.guide],
        [⟨Sample.guide, ⟨"Who has the key?"⟩⟩]⟩ := by
    have decoded : Sample.decodeGateReply Sample.gateReply = .ok Sample.gatePlan := if_pos rfl
    rw [PlanLlm.parsePlanOutput, decoded]
    rfl
  have safe := accepted_plan_safe keyed resolved accepted
  exact ⟨_, accepted, by rfl, safe.1, safe.2.2.1⟩

end Aise
