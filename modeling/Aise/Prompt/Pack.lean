import Aise.Lib.OrdMap
import Aise.Lib.Result
import Aise.Prompt.Model

/-! Packs bind slots to assets, and a pack may extend another one. A resolved pack has what its own
pack binds and, for the other slots, what the nearest pack that it extends binds. -/
namespace Aise.Domain.Prompt

def maxInheritanceDepth : Nat := 4

structure PromptPack where
  name : String
  extendsPack : Option String
  slots : BTreeMap SlotId AssetRef

structure ResolvedPack where
  name : String
  resolvedSlots : BTreeMap SlotId AssetRef
  extendsChain : List String

section
variable (allPacks : BTreeMap String PromptPack)

/-- The loop of `resolve_pack`: the packs from `current` up to one that extends no other. -/
def extendsChain (chain : List String) (current : String) : Except PromptError (List String) :=
  if current ∈ chain then .error (.inheritanceCycleOrDepthExceeded
    s!"cycle detected: {current} already in chain {debugList (chain.map fun name => name.quote)}")
  else if chain.length ≥ maxInheritanceDepth then .error (.inheritanceCycleOrDepthExceeded
    s!"max depth {maxInheritanceDepth} exceeded at pack `{current}`")
  else
    match allPacks[current]? with
    | none => .error (.packNotFound current)
    | some pack =>
      match pack.extendsPack with
      | some parent => extendsChain (chain ++ [current]) parent
      | none => .ok (chain ++ [current])
termination_by maxInheritanceDepth - chain.length
decreasing_by
  rw [List.length_append, List.length_singleton]
  omega

/-- What the packs of a chain bind, the first one last. -/
def overlaySlots (chain : List String) : BTreeMap SlotId AssetRef :=
  chain.reverse.foldl (fun resolved packName =>
    match allPacks[packName]? with
    | some pack => resolved ∪ pack.slots
    | none => resolved) ∅

def resolvePack (name : String) : Except PromptError ResolvedPack := do
  let chain ← extendsChain allPacks [] name
  return { name, resolvedSlots := overlaySlots allPacks chain, extendsChain := chain }

end

/-- The packs from one up to one that extends no other. -/
inductive Lineage (allPacks : BTreeMap String PromptPack) : String → List String → Prop
  | root {name : String} {pack : PromptPack} (known : allPacks[name]? = some pack)
      (alone : pack.extendsPack = none) : Lineage allPacks name [name]
  | child {name parent : String} {pack : PromptPack} {chain : List String}
      (known : allPacks[name]? = some pack) (extended : pack.extendsPack = some parent)
      (upwards : Lineage allPacks parent chain) : Lineage allPacks name (name :: chain)

variable {allPacks : BTreeMap String PromptPack} {name : String} {chain more : List String}

theorem Lineage.unique (first : Lineage allPacks name chain) (second : Lineage allPacks name more) :
    chain = more := by
  induction first generalizing more with
  | root known alone =>
    cases second with
    | root _ _ => rfl
    | child again extended _ =>
      rw [known] at again
      cases again
      rw [alone] at extended
      cases extended
  | child known extended _ ih =>
    cases second with
    | root again alone =>
      rw [known] at again
      cases again
      rw [extended] at alone
      cases alone
    | child again other upwards =>
      rw [known] at again
      cases again
      rw [extended] at other
      cases other
      rw [ih upwards]

/-- Each pack of a lineage has the rest of it as its own. -/
theorem Lineage.rest (lineage : Lineage allPacks name chain) {other : String} (member : other ∈ chain) :
    ∃ upper, upper <:+ chain ∧ Lineage allPacks other upper := by
  induction lineage with
  | root known alone =>
    cases List.mem_singleton.mp member
    exact ⟨_, List.suffix_rfl, .root known alone⟩
  | child known extended upwards ih =>
    rcases List.mem_cons.mp member with rfl | later
    · exact ⟨_, List.suffix_rfl, .child known extended upwards⟩
    · obtain ⟨upper, inside, here⟩ := ih later
      exact ⟨upper, inside.trans (List.suffix_cons _ _), here⟩

theorem Lineage.nodup (lineage : Lineage allPacks name chain) : chain.Nodup := by
  induction lineage with
  | root _ _ => exact List.nodup_singleton _
  | child known extended upwards ih =>
    refine List.nodup_cons.mpr ⟨fun again => ?_, ih⟩
    obtain ⟨upper, inside, here⟩ := upwards.rest again
    have same := here.unique (.child known extended upwards)
    have shorter := inside.length_le
    rw [same, List.length_cons] at shorter
    omega

theorem Lineage.starts (lineage : Lineage allPacks name chain) : name ∈ chain := by
  cases lineage with
  | root _ _ => exact List.mem_cons_self
  | child _ _ _ => exact List.mem_cons_self

/-- The loop gives the lineage, unless that comes back to a pack of the chain or is too long. -/
theorem extendsChain_iff (chain : List String) (name : String) {result : List String} :
    extendsChain allPacks chain name = .ok result ↔
      ∃ more, Lineage allPacks name more ∧ (∀ other ∈ more, other ∉ chain) ∧
        result = chain ++ more ∧ result.length ≤ maxInheritanceDepth := by
  induction chain, name using extendsChain.induct allPacks with
  | case1 chain name again =>
    rw [extendsChain, if_pos again]
    constructor
    · intro ok
      cases ok
    · rintro ⟨more, lineage, apart, _⟩
      exact absurd again (apart name lineage.starts)
  | case2 chain name new full =>
    rw [extendsChain, if_neg new, if_pos full]
    constructor
    · intro ok
      cases ok
    · rintro ⟨more, lineage, _, rfl, short⟩
      have further := List.length_pos_of_mem lineage.starts
      rw [List.length_append] at short
      omega
  | case3 chain name new room missing =>
    rw [extendsChain, if_neg new, if_neg room, missing]
    constructor
    · intro ok
      cases ok
    · rintro ⟨more, lineage, _⟩
      cases lineage with
      | root known _ =>
        rw [missing] at known
        cases known
      | child known _ _ =>
        rw [missing] at known
        cases known
  | case4 chain name new room pack known parent extended ih =>
    rw [extendsChain, if_neg new, if_neg room, known]
    simp only [extended]
    rw [ih]
    constructor
    · rintro ⟨more, upwards, apart, rfl, short⟩
      refine ⟨name :: more, .child known extended upwards, ?_, by simp, short⟩
      intro other member
      rcases List.mem_cons.mp member with rfl | later
      · exact new
      · exact fun before => apart other later (List.mem_append_left _ before)
    · rintro ⟨whole, lineage, apart, rfl, short⟩
      cases lineage with
      | root again alone =>
        rw [known] at again
        cases again
        rw [extended] at alone
        cases alone
      | child again other upwards =>
        rw [known] at again
        cases again
        rw [extended] at other
        cases other
        rename_i more
        refine ⟨more, upwards, ?_, by simp, short⟩
        have once := (List.nodup_cons.mp (Lineage.child known extended upwards).nodup).1
        intro pack member earlier
        rcases List.mem_append.mp earlier with before | here
        · exact apart pack (List.mem_cons_of_mem _ member) before
        · exact once (List.mem_singleton.mp here ▸ member)
  | case5 chain name new room pack known alone =>
    rw [extendsChain, if_neg new, if_neg room, known]
    simp only [alone]
    constructor
    · intro ok
      cases ok
      refine ⟨[name], .root known alone, ?_, rfl, ?_⟩
      · intro other member
        rwa [List.mem_singleton.mp member]
      · rw [List.length_append, List.length_singleton]
        omega
    · rintro ⟨more, lineage, _, rfl, _⟩
      rw [lineage.unique (.root known alone)]

/-- The binding of a slot in the first pack of a chain that has one. -/
def nearestBinding (allPacks : BTreeMap String PromptPack) (chain : List String) (slot : SlotId) :
    Option AssetRef :=
  chain.findSome? fun packName => (allPacks[packName]?).bind fun pack => pack.slots[slot]?

theorem get_overlaySlots (chain : List String) (slot : SlotId) :
    (overlaySlots allPacks chain)[slot]? = nearestBinding allPacks chain slot := by
  induction chain with
  | nil => rfl
  | cons packName rest ih =>
    unfold overlaySlots at ih ⊢
    rw [List.reverse_cons, List.foldl_append, List.foldl_cons, List.foldl_nil, nearestBinding,
      List.findSome?_cons]
    cases known : allPacks[packName]? with
    | none => exact ih
    | some pack =>
      rw [Std.ExtTreeMap.getElem?_union, ih, Option.bind_some]
      cases pack.slots[slot]? with
      | none => rfl
      | some asset => rfl

/-- A pack resolves exactly if extending ends within the depth, and it then binds a slot as the nearest
pack of its chain that binds it. -/
theorem resolve_pack_iff {name : String} {resolved : ResolvedPack} :
    resolvePack allPacks name = .ok resolved ↔
      Lineage allPacks name resolved.extendsChain ∧ resolved.extendsChain.length ≤ maxInheritanceDepth ∧
        resolved.name = name ∧
        ∀ slot, resolved.resolvedSlots[slot]? = nearestBinding allPacks resolved.extendsChain slot := by
  constructor
  · intro ok
    obtain ⟨chain, followed, last⟩ := Result.bind_eq_ok ok
    cases last
    obtain ⟨more, lineage, _, rfl, short⟩ := (extendsChain_iff [] name).mp followed
    exact ⟨lineage, short, rfl, get_overlaySlots _⟩
  · obtain ⟨own, slots, chain⟩ := resolved
    rintro ⟨lineage, short, rfl, bound⟩
    have followed : extendsChain allPacks [] own = .ok chain :=
      (extendsChain_iff [] own).mpr ⟨chain, lineage, fun _ _ => List.not_mem_nil, rfl, short⟩
    have same : slots = overlaySlots allPacks chain := by
      apply Std.ExtTreeMap.ext_getElem?
      intro slot
      rw [bound, get_overlaySlots]
    rw [resolvePack, followed, same]
    rfl

end Aise.Domain.Prompt
