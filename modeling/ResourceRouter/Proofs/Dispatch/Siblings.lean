import ResourceRouter.Proofs.Dispatch.Authorization
import ResourceRouter.Proofs.Dispatch.Handlers

set_option autoImplicit false

/-!
Handlers that sibling subcollections share. The name of a handler joins the subcollection and the
action with an underscore, which may stand in both: two subcollections meet in one name only where one
goes on, after an underscore, with what the action of the other begins with.
-/

namespace ResourceRouter

/-- One name is the other one, an underscore and further text, which may be empty. -/
def Extends (longer shorter : String) : Prop := ∃ rest, longer = shorter ++ "_" ++ rest

theorem extends_iff {longer shorter : String} :
    (shorter ++ "_").toList <+: longer.toList ↔ Extends longer shorter := by
  constructor
  · rintro ⟨rest, split⟩
    exact ⟨String.ofList rest, String.toList_inj.mp (by simpa using split.symm)⟩
  · rintro ⟨rest, rfl⟩
    exact ⟨rest.toList, by simp⟩

instance {longer shorter : String} : Decidable (Extends longer shorter) :=
  decidable_of_iff _ extends_iff

section Table

variable {config : Config} {catalogue : Catalogue} {verb : Verb}
variable {collection subcollection handler : String}

namespace Dispatcher

end Dispatcher

namespace HandlerTable

end HandlerTable

end Table

end ResourceRouter
