import Mathlib.Algebra.GroupWithZero.Nat
import Aise.Context.RetrievalPipeline
import Aise.Lib.Prefix

/-! What is left of the loaded knowledge after it was trimmed, and whether it is too much in all. -/
namespace Aise.Domain
open RustText Saturating

def tokenSum (items : List RetrievedKnowledgeItem) : Nat :=
  (items.map fun item => item.tokenCost.toNat).sum

@[simp] theorem tokenSum_nil : tokenSum [] = 0 := rfl

@[simp] theorem tokenSum_cons (item : RetrievedKnowledgeItem) (items : List RetrievedKnowledgeItem) :
    tokenSum (item :: items) = item.tokenCost.toNat + tokenSum items :=
  rfl

theorem tokenSum_take_le (items : List RetrievedKnowledgeItem) {count more : Nat} (le : count ≤ more) :
    tokenSum (items.take count) ≤ tokenSum (items.take more) := by
  induction items generalizing count more with
  | nil => simp
  | cons item items ih =>
    cases count with
    | zero => simp
    | succ count =>
      cases more with
      | zero => omega
      | succ more =>
        simp only [List.take_succ_cons, tokenSum_cons]
        exact Nat.add_le_add_left (ih (Nat.le_of_succ_le_succ le)) _

/-! ### The admitted items -/

namespace RetrievalConfig
variable (config : RetrievalConfig)

/-- Few enough items, with few enough tokens. The sum of the tokens stays at its bound once there. -/
def Fits (items : List RetrievedKnowledgeItem) : Prop :=
  items.length ≤ config.maxItemsPerAudience ∧
    min (tokenSum items) max64 ≤ config.maxTokensPerAudience.toNat

instance : DecidablePred config.Fits := fun _ => inferInstanceAs (Decidable (_ ∧ _))

/-- The best items of a partition, as many of them as fit an audience. -/
def admitted (items : List RetrievedKnowledgeItem) : List RetrievedKnowledgeItem :=
  Prefix.longest config.Fits (sortPartition items)

end RetrievalConfig

/-- The loop of `trim_tokens` stops where the next item would be too much. -/
theorem keepTokens_spec (maxTokens : UInt64) (items : List RetrievedKnowledgeItem) (total : UInt64)
    (sum : Nat) (saturated : total.toNat = min sum max64) (fits : total ≤ maxTokens) :
    keepTokens maxTokens total items ≤ items.length ∧
      min (sum + tokenSum (items.take (keepTokens maxTokens total items))) max64 ≤ maxTokens.toNat ∧
      (keepTokens maxTokens total items < items.length →
        maxTokens.toNat <
          min (sum + tokenSum (items.take (keepTokens maxTokens total items + 1))) max64) := by
  induction items generalizing total sum with
  | nil =>
    refine ⟨le_rfl, ?_, fun more => absurd more (Nat.lt_irrefl 0)⟩
    simpa [saturated] using UInt64.le_iff_toNat_le.mp fits
  | cons item items ih =>
    have next : (add total item.tokenCost).toNat = min (sum + item.tokenCost.toNat) max64 := by
      rw [toNat_add, saturated]
      omega
    simp only [keepTokens]
    split
    · rename_i beyond
      have large := UInt64.lt_iff_toNat_lt.mp beyond
      rw [next] at large
      refine ⟨Nat.zero_le _, ?_, fun _ => ?_⟩
      · simpa [saturated] using UInt64.le_iff_toNat_le.mp fits
      · simpa using large
    · rename_i within
      obtain ⟨bounded, kept, stops⟩ :=
        ih (add total item.tokenCost) (sum + item.tokenCost.toNat) next (UInt64.not_lt.mp within)
      simp only [List.length_cons, List.take_succ_cons, tokenSum_cons, ← Nat.add_assoc]
      refine ⟨Nat.succ_le_succ bounded, kept, fun more => ?_⟩
      exact stops (Nat.lt_of_succ_lt_succ more)

theorem trimPartition_eq_admitted (config : RetrievalConfig) (items : List RetrievedKnowledgeItem) :
    config.trimPartition items = config.admitted items := by
  unfold RetrievalConfig.trimPartition RetrievalConfig.admitted trimTokens
  generalize sortPartition items = sorted
  obtain ⟨bounded, kept, stops⟩ := keepTokens_spec config.maxTokensPerAudience
    (sorted.take config.maxItemsPerAudience) 0 0 rfl (UInt64.zero_le)
  generalize keepTokens config.maxTokensPerAudience 0 (sorted.take config.maxItemsPerAudience) = count
    at bounded kept stops
  rw [List.length_take] at bounded stops
  have few : count ≤ config.maxItemsPerAudience := by omega
  rw [List.take_take, Nat.min_eq_left few] at kept ⊢
  rw [Nat.zero_add] at kept
  have short : (sorted.take count).length ≤ config.maxItemsPerAudience := by
    rw [List.length_take]
    omega
  refine (Prefix.longest_eq_take (by omega) ⟨short, kept⟩ ?_).symm
  rintro more above within ⟨short, light⟩
  rw [List.length_take, Nat.min_eq_left within] at short
  have heavy := stops (by omega)
  have oneMore : (sorted.take config.maxItemsPerAudience).take (count + 1) =
      sorted.take (count + 1) := by
    rw [List.take_take, Nat.min_eq_left (by omega)]
  rw [oneMore, Nat.zero_add] at heavy
  have grows := tokenSum_take_le sorted (show count + 1 ≤ more by omega)
  have saturates := min_le_min_right max64 grows
  omega

/-! ### The checks of one partition -/

/-- The failures that say a limit of the retrieved context is exceeded. -/
def RetrievedContextError.isLimit : RetrievedContextError → Bool
  | countLimit _ | audienceTokenLimit | totalTokenLimit => true
  | _ => false

/-- A result that is no failure, or a failure that says no limit is exceeded. -/
def KeepsLimits {α : Type} (result : Except RetrievedContextError α) : Prop :=
  ∀ error, result = .error error → error.isLimit = false

theorem validateKindFrom_eq_ok {kind : KnowledgeKind} {seen : List KnowledgeSourceId}
    {items : List RetrievedKnowledgeItem} :
    validateKindFrom kind seen items = .ok ⟨⟩ ↔
      (∀ item ∈ items, item.sourceId.kind = kind) ∧ (∀ item ∈ items, item.sourceId ∉ seen) ∧
        (items.map (·.sourceId)).Nodup := by
  induction items generalizing seen with
  | nil => simp [validateKindFrom]
  | cons item items ih =>
    unfold validateKindFrom
    split
    · rename_i other
      simp [other]
    · split
      · rename_i known
        simp [known]
      · rename_i same unseen
        rw [ih]
        rw [List.forall_mem_cons, List.forall_mem_cons, List.map_cons, List.nodup_cons]
        simp only [List.mem_cons, not_or, List.mem_map, not_exists, not_and]
        constructor
        · rintro ⟨kinds, fresh, distinct⟩
          exact ⟨⟨not_not.mp same, kinds⟩, ⟨unseen, fun item member => (fresh item member).2⟩,
            fun item member => (fresh item member).1, distinct⟩
        · rintro ⟨⟨_, kinds⟩, ⟨_, fresh⟩, apart, distinct⟩
          exact ⟨kinds, fun item member => ⟨apart item member, fresh item member⟩, distinct⟩

theorem validateKindOnly_eq_ok {kind : KnowledgeKind} {items : List RetrievedKnowledgeItem} :
    validateKindOnly items kind = .ok ⟨⟩ ↔
      (∀ item ∈ items, item.sourceId.kind = kind) ∧ (items.map (·.sourceId)).Nodup := by
  rw [validateKindOnly, validateKindFrom_eq_ok]
  simp

theorem validateKindFrom_error {kind : KnowledgeKind} {seen : List KnowledgeSourceId}
    {items : List RetrievedKnowledgeItem} {error : RetrievedContextError}
    (failed : validateKindFrom kind seen items = .error error) : error.isLimit = false := by
  induction items generalizing seen with
  | nil => cases failed
  | cons item items ih =>
    unfold validateKindFrom at failed
    split at failed
    · cases failed
      rfl
    · split at failed
      · cases failed
        rfl
      · exact ih failed

theorem checkedAddToken_eq {total cost : UInt64} :
    checkedAddToken total cost =
      if total.toNat + cost.toNat < UInt64.size then .ok (UInt64.ofNat (total.toNat + cost.toNat))
      else .error .arithmeticOverflow := by
  unfold checkedAddToken
  congr 2

/-- The tokens of the items, where a word can hold their sum. -/
theorem checkedAddTokens_eq (base : UInt64) (items : List RetrievedKnowledgeItem) :
    checkedAddTokens base items =
      if base.toNat + tokenSum items < UInt64.size then .ok (UInt64.ofNat (base.toNat + tokenSum items))
      else .error .arithmeticOverflow := by
  induction items generalizing base with
  | nil => simp [checkedAddTokens, pure, Except.pure, base.toNat_lt_size]
  | cons item items ih =>
    have later : checkedAddTokens base (item :: items) =
        checkedAddToken base item.tokenCost >>= fun next => checkedAddTokens next items :=
      List.foldlM_cons
    rw [later, checkedAddToken_eq, tokenSum_cons, ← Nat.add_assoc]
    by_cases fits : base.toNat + item.tokenCost.toNat < UInt64.size
    · rw [if_pos fits]
      have held : (UInt64.ofNat (base.toNat + item.tokenCost.toNat)).toNat =
          base.toNat + item.tokenCost.toNat := UInt64.toNat_ofNat_of_lt fits
      change checkedAddTokens _ items = _
      rw [ih, held]
    · rw [if_neg fits, if_neg (by omega)]
      rfl

theorem partitionTokens_eq_ok {limits : RetrievedContextLimits} {items : List RetrievedKnowledgeItem}
    {base total : UInt64} :
    items.foldlM (addPartitionTokens limits) base = .ok total ↔
      (∀ item ∈ items, len item.content.value ≤ limits.maxItemBytes ∧
        item.tokenCost = estimateTextTokens item.content.value) ∧
      checkedAddTokens base items = .ok total := by
  induction items generalizing base with
  | nil => simp [checkedAddTokens]
  | cons item items ih =>
    have later : checkedAddTokens base (item :: items) =
        checkedAddToken base item.tokenCost >>= fun next => checkedAddTokens next items :=
      List.foldlM_cons
    rw [List.foldlM_cons, later, List.forall_mem_cons]
    unfold addPartitionTokens
    split
    · rename_i long
      simp [bind, Except.bind, Nat.not_le_of_gt long]
    · rename_i short
      split
      · rename_i wrong
        simp [bind, Except.bind, wrong]
      · rename_i right
        rw [not_not] at right
        have fine : len item.content.value ≤ limits.maxItemBytes ∧
            item.tokenCost = estimateTextTokens item.content.value := ⟨Nat.le_of_not_lt short, right⟩
        cases checkedAddToken base item.tokenCost with
        | error _ => simp [bind, Except.bind]
        | ok next =>
          change items.foldlM (addPartitionTokens limits) next = .ok total ↔
            _ ∧ checkedAddTokens next items = .ok total
          rw [ih]
          simp only [fine, true_and, and_self]

theorem partitionTokens_error {limits : RetrievedContextLimits} {items : List RetrievedKnowledgeItem}
    {base : UInt64} {error : RetrievedContextError}
    (failed : items.foldlM (addPartitionTokens limits) base = .error error) :
    error.isLimit = false := by
  obtain ⟨total, item, _, failed⟩ := Result.foldlM_eq_error failed
  unfold addPartitionTokens at failed
  split at failed
  · cases failed
    rfl
  · split at failed
    · cases failed
      rfl
    · unfold checkedAddToken at failed
      split at failed
      · cases failed
      · cases failed
        rfl

/-- A partition that nothing but its size can be said against. -/
structure RetrievalConfig.Clean (config : RetrievalConfig) (kind : KnowledgeKind)
    (items : List RetrievedKnowledgeItem) : Prop where
  kinds : ∀ item ∈ items, item.sourceId.kind = kind
  distinct : (items.map (·.sourceId)).Nodup
  fine : ∀ item ∈ items, len item.content.value ≤ config.maxItemBytes ∧
    item.tokenCost = estimateTextTokens item.content.value
  countable : tokenSum items < UInt64.size

section
variable {config : RetrievalConfig} {kind : KnowledgeKind} {items : List RetrievedKnowledgeItem}
  {maxCharacterDecisions : Nat} {error : RetrievedContextError}

theorem admitted_fits (config : RetrievalConfig) (items : List RetrievedKnowledgeItem) :
    config.Fits (config.admitted items) := by
  refine Prefix.fits_longest ⟨Nat.zero_le _, ?_⟩
  simp

/-- What fits an audience is only refused for one of its items. -/
theorem validatePartitionBounds_of_fits (fits : config.Fits items) :
    validatePartitionBounds items (config.contextLimits maxCharacterDecisions) =
      partitionTokens (config.contextLimits maxCharacterDecisions) items >>= fun _ => .ok ⟨⟩ := by
  have few : ¬items.length > (config.contextLimits maxCharacterDecisions).maxItemsPerAudience :=
    Nat.not_lt_of_le fits.1
  unfold validatePartitionBounds
  rw [if_neg few]
  cases counted : partitionTokens (config.contextLimits maxCharacterDecisions) items with
  | error _ => rfl
  | ok total =>
    have added := (partitionTokens_eq_ok.mp counted).2
    rw [checkedAddTokens_eq] at added
    split at added
    · rename_i held
      cases added
      have light : ¬UInt64.ofNat ((0 : UInt64).toNat + tokenSum items) >
          (config.contextLimits maxCharacterDecisions).maxTokensPerAudience := by
        have top : 0 + tokenSum items ≤ max64 := Nat.le_pred_of_lt held
        have below := fits.2
        have sum : (UInt64.ofNat ((0 : UInt64).toNat + tokenSum items)).toNat = 0 + tokenSum items :=
          UInt64.toNat_ofNat_of_lt' held
        rw [gt_iff_lt, UInt64.lt_iff_toNat_lt, sum]
        change ¬config.maxTokensPerAudience.toNat < 0 + tokenSum items
        omega
      exact if_neg light
    · cases added

theorem validatePartitionBounds_eq_ok (fits : config.Fits items) :
    validatePartitionBounds items (config.contextLimits maxCharacterDecisions) = .ok ⟨⟩ ↔
      (∀ item ∈ items, len item.content.value ≤ config.maxItemBytes ∧
        item.tokenCost = estimateTextTokens item.content.value) ∧
      tokenSum items < UInt64.size := by
  rw [validatePartitionBounds_of_fits fits]
  constructor
  · intro ok
    obtain ⟨total, counted, _⟩ := Result.bind_eq_ok ok
    obtain ⟨fine, added⟩ := partitionTokens_eq_ok.mp counted
    rw [checkedAddTokens_eq] at added
    split at added
    · rename_i held
      exact ⟨fine, by simpa using held⟩
    · cases added
  · rintro ⟨fine, held⟩
    have added : checkedAddTokens 0 items = .ok (UInt64.ofNat (tokenSum items)) := by
      rw [checkedAddTokens_eq]
      simp [held]
    have counted : partitionTokens (config.contextLimits maxCharacterDecisions) items = _ :=
      partitionTokens_eq_ok.mpr ⟨fine, added⟩
    rw [counted]
    rfl

theorem validatePartitionBounds_error (fits : config.Fits items)
    (failed : validatePartitionBounds items (config.contextLimits maxCharacterDecisions) =
      .error error) : error.isLimit = false := by
  rw [validatePartitionBounds_of_fits fits] at failed
  rcases Result.bind_eq_error failed with uncounted | ⟨total, _, failed⟩
  · exact partitionTokens_error uncounted
  · cases failed

/-- Both checks of a partition pass where it is clean. -/
theorem clean_iff (kind : KnowledgeKind) (maxCharacterDecisions : Nat) (fits : config.Fits items) :
    validateKindOnly items kind = .ok ⟨⟩ ∧
        validatePartitionBounds items (config.contextLimits maxCharacterDecisions) = .ok ⟨⟩ ↔
      config.Clean kind items := by
  rw [validateKindOnly_eq_ok, validatePartitionBounds_eq_ok fits]
  constructor
  · rintro ⟨⟨kinds, distinct⟩, fine, countable⟩
    exact ⟨kinds, distinct, fine, countable⟩
  · rintro ⟨kinds, distinct, fine, countable⟩
    exact ⟨⟨kinds, distinct⟩, fine, countable⟩

end

/-! ### The totals -/

/-- All items of a context, as they are counted. -/
def heldItems (world : RetrievedWorldKnowledge) (characters : List RetrievedCharacterContext) :
    List RetrievedKnowledgeItem :=
  world.facts ++ world.rumors ++
    characters.flatMap fun character => character.knownRumors ++ character.memories

theorem countCharacters_eq (characters : List RetrievedCharacterContext) {base : Nat}
    (held : base < UInt64.size) :
    characters.foldlM (fun total character => do
        let total ← checkedAddItems total character.knownRumors.length
        checkedAddItems total character.memories.length) base =
      if base + (characters.flatMap fun character =>
          character.knownRumors ++ character.memories).length < UInt64.size then
        .ok (base + (characters.flatMap fun character =>
          character.knownRumors ++ character.memories).length)
      else .error .arithmeticOverflow := by
  induction characters generalizing base with
  | nil => simp [held, pure, Except.pure]
  | cons character rest ih =>
    rw [List.foldlM_cons, List.flatMap_cons, List.length_append, List.length_append, ← Nat.add_assoc,
      ← Nat.add_assoc]
    unfold checkedAddItems
    by_cases rumors : base + character.knownRumors.length < UInt64.size
    · by_cases memories : base + character.knownRumors.length + character.memories.length < UInt64.size
      · simp only [if_pos rumors, if_pos memories, bind, Except.bind]
        exact ih memories
      · simp only [if_pos rumors, if_neg memories, bind, Except.bind]
        rw [if_neg (by omega)]
    · simp only [if_neg rumors, bind, Except.bind]
      rw [if_neg (by omega)]

theorem countItems_eq (world : RetrievedWorldKnowledge) (characters : List RetrievedCharacterContext) :
    countItems world characters =
      if (heldItems world characters).length < UInt64.size then .ok (heldItems world characters).length
      else .error .arithmeticOverflow := by
  unfold countItems heldItems
  rw [countCharacters_eq characters (by decide), List.length_append, List.length_append, Nat.zero_add]
  generalize (characters.flatMap fun character =>
    character.knownRumors ++ character.memories).length = told
  unfold checkedAddItems
  by_cases first : told < UInt64.size
  · by_cases second : world.facts.length + world.rumors.length < UInt64.size
    · simp only [if_pos first, if_pos second, bind, Except.bind]
    · simp only [if_pos first, if_neg second, bind, Except.bind]
      rw [if_neg (by omega)]
  · simp only [if_neg first, bind, Except.bind]
    rw [if_neg (by omega)]

theorem checkedAddTokens_append (base : UInt64) (items more : List RetrievedKnowledgeItem) :
    checkedAddTokens base (items ++ more) =
      checkedAddTokens base items >>= fun total => checkedAddTokens total more :=
  List.foldlM_append

theorem countTokens_eq (world : RetrievedWorldKnowledge) (characters : List RetrievedCharacterContext) :
    countTokens world characters = checkedAddTokens 0 (heldItems world characters) := by
  have told : ∀ base, characters.foldlM (fun total character => do
      let total ← checkedAddTokens total character.knownRumors
      checkedAddTokens total character.memories) base =
      checkedAddTokens base (characters.flatMap fun character =>
        character.knownRumors ++ character.memories) := by
    induction characters with
    | nil => exact fun base => rfl
    | cons character rest ih =>
      intro base
      rw [List.foldlM_cons, List.flatMap_cons, checkedAddTokens_append, checkedAddTokens_append]
      simp only [ih]
  unfold countTokens heldItems
  simp only [told, checkedAddTokens_append, bind_assoc]

/-! ### What `try_new` says to trimmed knowledge -/

namespace RetrievalConfig
variable (config : RetrievalConfig) (world : RetrievedWorldKnowledge)
  (characters : BTreeMap RoleId RetrievedCharacterContext)

/-- The admitted items of all partitions. -/
def admittedItems : List RetrievedKnowledgeItem :=
  config.admitted world.facts ++ config.admitted world.rumors ++
    (valuesOf characters).flatMap fun character =>
      config.admitted character.knownRumors ++ config.admitted character.memories

/-- The admitted items of a character are clean, and it is the character of its view. -/
structure CleanCharacter (roleId : RoleId) (character : RetrievedCharacterContext) : Prop where
  role : ∀ role, character.role = some role → role.roleId = roleId
  knownRumors : config.Clean .rumor (config.admitted character.knownRumors)
  memories : config.Clean .memory (config.admitted character.memories)

/-- Nothing but their number and their tokens can be said against the admitted items. -/
structure Sound : Prop where
  facts : config.Clean .fact (config.admitted world.facts)
  rumors : config.Clean .rumor (config.admitted world.rumors)
  characters : ∀ entry ∈ characters.toList, config.CleanCharacter entry.1 entry.2

/-- The admitted items are too many in all, or have too many tokens in all. -/
def Exceeds : Prop :=
  (config.admittedItems world characters).length < UInt64.size ∧
    (config.maxTotalItems < (config.admittedItems world characters).length ∨
      config.maxTotalTokens.toNat < tokenSum (config.admittedItems world characters) ∧
        tokenSum (config.admittedItems world characters) < UInt64.size)

/-- The checks of `try_new` that come before the totals. -/
def checkPartitions (limits : RetrievedContextLimits) : Except RetrievedContextError Unit := do
  validateKindOnly world.facts .fact
  validateKindOnly world.rumors .rumor
  validatePartitionBounds world.facts limits
  validatePartitionBounds world.rumors limits
  characters.toList.forM fun (roleId, character) => validateCharacter limits roleId character

/-- The totals of `try_new`. -/
def checkTotals (limits : RetrievedContextLimits) : Except RetrievedContextError RetrievedContext := do
  let totalItems ← countItems world (valuesOf characters)
  if totalItems > limits.maxTotalItems then .error (.countLimit "max_total_items")
  else
    let totalTokens ← countTokens world (valuesOf characters)
    if totalTokens > limits.maxTotalTokens then .error .totalTokenLimit
    else .ok { world, characters }

variable {config world characters} {maxCharacterDecisions : Nat} {error : RetrievedContextError}

theorem tryNew_eq {limits : RetrievedContextLimits} (planned : characters.size ≤ limits.maxRoleAudiences) :
    RetrievedContext.tryNew world characters limits =
      checkPartitions world characters limits >>= fun _ => checkTotals world characters limits := by
  unfold RetrievedContext.tryNew checkPartitions
  rw [if_neg (Nat.not_lt_of_le planned)]
  simp only [bind_assoc]
  rfl

theorem trimWorld_eq : config.trimWorld world =
    ⟨config.admitted world.facts, config.admitted world.rumors⟩ := by
  simp only [trimWorld, trimPartition_eq_admitted]

theorem trimCharacter_eq (character : RetrievedCharacterContext) : config.trimCharacter character =
    ⟨character.role, config.admitted character.knownRumors, config.admitted character.memories⟩ := by
  simp only [trimCharacter, trimPartition_eq_admitted]

theorem heldItems_trimmed : heldItems (config.trimWorld world)
    (valuesOf (characters.map fun _ character => config.trimCharacter character)) =
      config.admittedItems world characters := by
  unfold heldItems admittedItems valuesOf
  rw [Std.ExtTreeMap.toList_map, List.map_map, trimWorld_eq]
  simp only [List.flatMap_map, Function.comp_def, trimCharacter_eq]

theorem validateCharacter_eq_ok {roleId : RoleId} {character : RetrievedCharacterContext} :
    validateCharacter (config.contextLimits maxCharacterDecisions) roleId
        (config.trimCharacter character) = .ok ⟨⟩ ↔ config.CleanCharacter roleId character := by
  rw [trimCharacter_eq]
  unfold validateCharacter
  have rumors := clean_iff .rumor maxCharacterDecisions
    (admitted_fits config character.knownRumors)
  have memories := clean_iff .memory maxCharacterDecisions
    (admitted_fits config character.memories)
  by_cases foreign : character.role.any (·.roleId ≠ roleId) = true
  · rw [if_pos foreign]
    constructor
    · intro ok
      cases ok
    · intro clean
      cases viewed : character.role with
      | none => simp [viewed] at foreign
      | some role => simp [viewed, clean.role role viewed] at foreign
  · rw [if_neg foreign]
    simp only [Result.check_bind_eq_ok]
    have own : ∀ role, character.role = some role → role.roleId = roleId := by
      intro role viewed
      rw [viewed] at foreign
      simpa using foreign
    constructor
    · rintro ⟨kinds, otherKinds, bounds, otherBounds⟩
      exact ⟨own, rumors.mp ⟨kinds, bounds⟩, memories.mp ⟨otherKinds, otherBounds⟩⟩
    · rintro ⟨_, clean, otherClean⟩
      exact ⟨(rumors.mpr clean).1, (memories.mpr otherClean).1, (rumors.mpr clean).2,
        (memories.mpr otherClean).2⟩

theorem validateCharacter_error {roleId : RoleId} {character : RetrievedCharacterContext}
    (failed : validateCharacter (config.contextLimits maxCharacterDecisions) roleId
      (config.trimCharacter character) = .error error) : error.isLimit = false := by
  rw [trimCharacter_eq] at failed
  unfold validateCharacter at failed
  split at failed
  · cases failed
    rfl
  · rcases Result.bind_eq_error failed with failed | ⟨_, _, failed⟩
    · exact validateKindFrom_error failed
    rcases Result.bind_eq_error failed with failed | ⟨_, _, failed⟩
    · exact validateKindFrom_error failed
    rcases Result.bind_eq_error failed with failed | ⟨_, _, failed⟩
    · exact validatePartitionBounds_error (admitted_fits config _) failed
    · exact validatePartitionBounds_error (admitted_fits config _) failed

section
variable (config world characters maxCharacterDecisions)

/-- The checks of trimmed knowledge that come before the totals. -/
abbrev trimmedChecks : Except RetrievedContextError Unit :=
  checkPartitions (config.trimWorld world)
    (characters.map fun _ character => config.trimCharacter character)
    (config.contextLimits maxCharacterDecisions)

end

theorem trimmedChecks_eq_ok :
    config.trimmedChecks world characters maxCharacterDecisions = .ok ⟨⟩ ↔
      config.Sound world characters := by
  unfold trimmedChecks checkPartitions
  have facts := clean_iff .fact maxCharacterDecisions
    (admitted_fits config world.facts)
  have rumors := clean_iff .rumor maxCharacterDecisions
    (admitted_fits config world.rumors)
  simp only [Result.check_bind_eq_ok, Result.forM_eq_ok, trimWorld_eq, Std.ExtTreeMap.toList_map,
    List.forall_mem_map, validateCharacter_eq_ok]
  constructor
  · rintro ⟨kinds, otherKinds, bounds, otherBounds, each⟩
    exact ⟨facts.mp ⟨kinds, bounds⟩, rumors.mp ⟨otherKinds, otherBounds⟩, each⟩
  · rintro ⟨clean, otherClean, each⟩
    exact ⟨(facts.mpr clean).1, (rumors.mpr otherClean).1, (facts.mpr clean).2,
      (rumors.mpr otherClean).2, each⟩

theorem trimmedChecks_error
    (failed : config.trimmedChecks world characters maxCharacterDecisions = .error error) :
    error.isLimit = false := by
  unfold trimmedChecks checkPartitions at failed
  rw [trimWorld_eq] at failed
  rcases Result.bind_eq_error failed with failed | ⟨_, _, failed⟩
  · exact validateKindFrom_error failed
  rcases Result.bind_eq_error failed with failed | ⟨_, _, failed⟩
  · exact validateKindFrom_error failed
  rcases Result.bind_eq_error failed with failed | ⟨_, _, failed⟩
  · exact validatePartitionBounds_error (admitted_fits config _) failed
  rcases Result.bind_eq_error failed with failed | ⟨_, _, failed⟩
  · exact validatePartitionBounds_error (admitted_fits config _) failed
  obtain ⟨entry, member, failed⟩ := Result.forM_eq_error failed
  rw [Std.ExtTreeMap.toList_map] at member
  obtain ⟨original, _, rfl⟩ := List.mem_map.mp member
  exact validateCharacter_error failed

/-- The totals, compared in the order in which they are counted. -/
theorem checkTotals_eq {limits : RetrievedContextLimits} {items : List RetrievedKnowledgeItem}
    (held : heldItems world (valuesOf characters) = items) :
    checkTotals world characters limits =
      if UInt64.size ≤ items.length then .error .arithmeticOverflow
      else if limits.maxTotalItems < items.length then .error (.countLimit "max_total_items")
      else if UInt64.size ≤ tokenSum items then .error .arithmeticOverflow
      else if limits.maxTotalTokens.toNat < tokenSum items then .error .totalTokenLimit
      else .ok ⟨world, characters⟩ := by
  have tokens : countTokens world (valuesOf characters) =
      if tokenSum items < UInt64.size then .ok (UInt64.ofNat (tokenSum items))
      else .error .arithmeticOverflow := by
    rw [countTokens_eq, checkedAddTokens_eq, held]
    simp
  unfold checkTotals
  rw [countItems_eq, held, tokens]
  by_cases countable : items.length < UInt64.size
  · rw [if_pos countable, if_neg (Nat.not_le_of_lt countable)]
    by_cases crowded : limits.maxTotalItems < items.length
    · simp only [bind, Except.bind, gt_iff_lt, if_pos crowded]
    · by_cases summable : tokenSum items < UInt64.size
      · have above : limits.maxTotalTokens < UInt64.ofNat (tokenSum items) ↔
            limits.maxTotalTokens.toNat < tokenSum items := by
          rw [UInt64.lt_iff_toNat_lt, UInt64.toNat_ofNat_of_lt' summable]
        simp only [bind, Except.bind, gt_iff_lt, if_neg crowded, if_pos summable, above,
          if_neg (Nat.not_le_of_lt summable)]
      · simp only [bind, Except.bind, gt_iff_lt, if_neg crowded, if_neg summable,
          if_pos (Nat.le_of_not_lt summable)]
  · rw [if_neg countable, if_pos (Nat.le_of_not_lt countable)]
    rfl

/-- The totals exceed a limit exactly where the admitted items do. -/
theorem checkTotals_keepsLimits :
    KeepsLimits (checkTotals (config.trimWorld world)
        (characters.map fun _ character => config.trimCharacter character)
        (config.contextLimits maxCharacterDecisions)) ↔ ¬config.Exceeds world characters := by
  have keeps {context : RetrievedContext} : KeepsLimits (.ok context) := fun error failed => by
    cases failed
  have stays {error : RetrievedContextError} :
      KeepsLimits (.error error : Except RetrievedContextError RetrievedContext) ↔
        error.isLimit = false := by
    constructor
    · intro kept
      exact kept error rfl
    · rintro fine other failed
      cases failed
      exact fine
  rw [checkTotals_eq heldItems_trimmed, Exceeds]
  generalize config.admittedItems world characters = items
  change KeepsLimits (if UInt64.size ≤ items.length then _
    else if config.maxTotalItems < items.length then _
    else if UInt64.size ≤ tokenSum items then _
    else if config.maxTotalTokens.toNat < tokenSum items then _ else _) ↔ _
  split
  · rename_i overflows
    simp only [stays]
    simp [RetrievedContextError.isLimit, Nat.not_lt_of_le overflows]
  · rename_i countable
    have countable := Nat.lt_of_not_le countable
    split
    · rename_i crowded
      simp only [stays]
      simp [RetrievedContextError.isLimit, countable, crowded]
    · rename_i few
      split
      · rename_i overflows
        simp only [stays]
        simp [RetrievedContextError.isLimit, few, Nat.not_lt_of_le overflows]
      · rename_i summable
        have summable := Nat.lt_of_not_le summable
        split
        · rename_i heavy
          simp only [stays]
          simp [RetrievedContextError.isLimit, countable, heavy, summable]
        · rename_i light
          simp [keeps, few, light]

/-- Trimming audience by audience suffices, except where the admitted items are sound but exceed the
totals. -/
theorem trimming_suffices_iff (planned : characters.size ≤ maxCharacterDecisions) :
    KeepsLimits (config.assemble maxCharacterDecisions world characters) ↔
      ¬(config.Sound world characters ∧ config.Exceeds world characters) := by
  have sized : (characters.map fun _ character => config.trimCharacter character).size ≤
      (config.contextLimits maxCharacterDecisions).maxRoleAudiences := by
    rw [Std.ExtTreeMap.size_map]
    exact planned
  rw [assemble, tryNew_eq sized]
  change KeepsLimits (config.trimmedChecks world characters maxCharacterDecisions >>= _) ↔ _
  cases checked : config.trimmedChecks world characters maxCharacterDecisions with
  | error failure =>
    have unsound : ¬config.Sound world characters := by
      intro sound
      rw [trimmedChecks_eq_ok.mpr sound] at checked
      cases checked
    constructor
    · rintro _ ⟨sound, _⟩
      exact unsound sound
    · rintro _ error failed
      cases failed
      exact trimmedChecks_error checked
  | ok value =>
    have sound := trimmedChecks_eq_ok.mp checked
    change KeepsLimits (checkTotals _ _ _) ↔ _
    rw [checkTotals_keepsLimits]
    simp only [sound, true_and]

end RetrievalConfig

namespace Trimming.Sample

def sourceId (kind : KnowledgeKind) (number : Fin 16) : KnowledgeSourceId :=
  ⟨kind, _, isKnowledgeId_format kind (Nat.succ_pos number.val)
    (Nat.succ_le_of_lt (number.isLt.trans (by decide)))⟩

def item (kind : KnowledgeKind) (number : Fin 16) : RetrievedKnowledgeItem :=
  .fromParts (sourceId kind number) ⟨"a rope hangs"⟩ (.seed ⟨"pack"⟩ ⟨List.replicate 32 9, rfl⟩)
    .textMatch 1 0

/-- As many facts, as many rumors, and one memory of a single role. -/
def world (count : Nat) : RetrievedWorldKnowledge where
  facts := ((List.finRange 16).take count).map (item .fact)
  rumors := ((List.finRange 16).take count).map (item .rumor)

def sexton : RoleId := ⟨"sexton", by decide +kernel⟩

def characters : BTreeMap RoleId RetrievedCharacterContext :=
  (∅ : BTreeMap RoleId RetrievedCharacterContext).insert sexton { memories := [item .memory 0] }

def outcome (count : Nat) : Option RetrievedContextError :=
  match ({} : RetrievalConfig).assemble 8 (world count) characters with
  | .ok _ => none
  | .error error => some error

/-- Under the limits of the default configuration, full audiences of the writer leave no room for
the one memory of a character. -/
theorem full_audiences_exceed :
    outcome 10 = some (.countLimit "max_total_items") ∧
      ¬KeepsLimits (({} : RetrievalConfig).assemble 8 (world 10) characters) := by
  have refused : outcome 10 = some (.countLimit "max_total_items") := by decide +kernel
  refine ⟨refused, fun kept => ?_⟩
  unfold outcome at refused
  split at refused
  · cases refused
  · rename_i error failed
    cases refused
    cases kept _ failed

theorem lean_audiences_fit :
    outcome 2 = none ∧ KeepsLimits (({} : RetrievalConfig).assemble 8 (world 2) characters) := by
  have planned : characters.size ≤ 8 := by decide +kernel
  refine ⟨by decide +kernel, (RetrievalConfig.trimming_suffices_iff planned).mpr ?_⟩
  rintro ⟨_, _, crowded | ⟨heavy, _⟩⟩
  · revert crowded
    decide +kernel
  · revert heavy
    decide +kernel

end Trimming.Sample

end Aise.Domain
