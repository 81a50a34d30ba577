import ResourceRouter.Json.Basic

set_option autoImplicit false

/-!
Looking up members of an object after an edit: an edit of one name is not seen under any other.
-/

namespace ResourceRouter.Json

/-- An edited member has its new value, and every other member the old one. -/
theorem lookup_insertMember (name other : String) (value : Json) (members : List (String × Json)) :
    lookup other (insertMember name value members) =
      if other = name then some value else lookup other members := by
  induction members with
  | nil => rfl
  | cons first rest ih =>
      obtain ⟨held, current⟩ := first
      unfold insertMember
      split
      · next same =>
          subst same
          by_cases asked : other = name <;> simp [lookup, asked]
      split
      · rfl
      · next different notLess =>
          by_cases asked : other = held
          · have kept : held ≠ name := fun same => different same.symm
            simp [lookup, asked, kept]
          · simp [lookup, asked, ih]

theorem mem_of_lookup {name : String} {value : Json} {members : List (String × Json)}
    (found : lookup name members = some value) : (name, value) ∈ members := by
  induction members with
  | nil => cases found
  | cons first rest ih =>
      obtain ⟨held, current⟩ := first
      rw [lookup] at found
      split at found
      · next same =>
          obtain rfl := Option.some.inj found
          rw [same]
          exact List.mem_cons_self
      · exact List.mem_cons_of_mem _ (ih found)

/-- Among the members of some names, those names are looked up as before, and no other. -/
theorem lookup_filter (keeps : String → Bool) (name : String) (members : List (String × Json)) :
    lookup name (members.filter fun member => keeps member.1) =
      if keeps name then lookup name members else none := by
  induction members with
  | nil => simp [lookup]
  | cons first rest ih =>
      obtain ⟨held, current⟩ := first
      by_cases asked : name = held
      · subst asked
        cases kept : keeps name <;> simp [lookup, ih, kept]
      · cases kept : keeps held <;> simp [lookup, ih, kept, asked]

/-- Removing the members of a name leaves those of every other. -/
theorem lookup_erase {name other : String} (differs : other ≠ name)
    (members : List (String × Json)) :
    lookup other (members.filter fun member => member.1 != name) = lookup other members := by
  rw [lookup_filter (· != name), if_pos (bne_iff_ne.mpr differs)]

end ResourceRouter.Json
