set_option autoImplicit false

/-!
The permissions that the caller of a request holds.
-/

namespace ResourceRouter

/-- A predicate on permission identifiers. -/
structure Permissions where
  allows : String → Bool

namespace Permissions

/-- The grant that stands for every permission. -/
def wildcard : String := "*"

/-- The permissions of a list of grants. -/
def ofGrants (grants : List String) : Permissions :=
  ⟨fun identifier => grants.contains wildcard || grants.contains identifier⟩

/-- No permission at all. -/
def nothing : Permissions := ofGrants []

end Permissions

end ResourceRouter
