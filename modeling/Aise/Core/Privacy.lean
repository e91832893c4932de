import Aise.Core.Story
import Aise.Lib.Masking

/-! What the roles of a story keep to themselves: their aliases, their backstory, their
profile and their memories. A context with the private parts of all roles but one hidden
is what that role may be told of. -/
namespace Aise
open Masking

/-- A role with its private parts taken out; its identifier, origin, name and retrieval
hint stay. -/
def RoleEntry.inPublic (role : RoleEntry) : RoleEntry :=
  { role with
    spec := { role.spec with aliases := [], backstory := ⟨""⟩ }
    profile := {}
    memories := ∅ }

namespace StoryContext

def hideFrom (target : RoleId) (context : StoryContext) : StoryContext :=
  { context with roles := hideOthers target RoleEntry.inPublic context.roles }

/-- Two contexts that differ only in what roles other than `target` keep to themselves. -/
structure SamePublic (target : RoleId) (context other : StoryContext) : Prop where
  story : { context with roles := other.roles } = other
  own : context.roles[target]? = other.roles[target]?
  others : ∀ roleId, roleId ≠ target →
    context.roles[roleId]?.map RoleEntry.inPublic = other.roles[roleId]?.map RoleEntry.inPublic

theorem hideFrom_eq_iff {target : RoleId} {context other : StoryContext} :
    context.hideFrom target = other.hideFrom target ↔ SamePublic target context other := by
  constructor
  · intro alike
    have roles : hideOthers target RoleEntry.inPublic context.roles =
        hideOthers target RoleEntry.inPublic other.roles := congrArg roles alike
    obtain ⟨same, others⟩ := hideOthers_eq_iff.mp roles
    refine ⟨?_, same, others⟩
    have story := congrArg (fun hidden : StoryContext => { hidden with roles := other.roles }) alike
    exact story
  · rintro ⟨story, same, others⟩
    have roles := hideOthers_eq_iff.mpr ⟨same, others⟩
    calc context.hideFrom target
        = { context with roles := hideOthers target RoleEntry.inPublic other.roles } := by
          rw [hideFrom, roles]
      _ = other.hideFrom target := by
          rw [← story]
          rfl

variable {target : RoleId}

/-- The target can be read as it is. -/
theorem role_blind : Blind (hideFrom target) (·.roles[target]?) := fun _ => get_target

/-- Of every other role, what is public. -/
theorem public_blind {shown : RoleEntry → α}
    (untouched : ∀ role : RoleEntry, shown role.inPublic = shown role) (roleId : RoleId) :
    Blind (hideFrom target) (·.roles[roleId]?.map shown) :=
  fun _ => get_shown untouched roleId

end StoryContext
end Aise
