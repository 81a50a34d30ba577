import ResourceRouter.Config.Load
import ResourceRouter.Proofs.Catalogue.Entries
import ResourceRouter.Proofs.Config.Decoding
import ResourceRouter.Proofs.Json.Ordered

set_option autoImplicit false

/-!
Layers of settings. A layer above another decides about the members that it has, and the others stay;
above an empty table, a table in ascending order is itself.
-/

namespace ResourceRouter

namespace Setting

/-- The names of the members ascend. -/
def Ascending (members : List (String × Setting)) : Prop :=
  members.Pairwise fun first second => first.1 < second.1

/-- What a layer makes of a member of the layer above it. -/
def merged (below : List (String × Setting)) (name : String) (value : Setting) : Setting :=
  match below.lookup name with
  | some held => merge held value
  | none => value

theorem mergeMembers_cons (below : List (String × Setting)) (name : String) (value : Setting)
    (rest : List (String × Setting)) :
    mergeMembers below ((name, value) :: rest) =
      mergeMembers (insertMember name (merged below name value) below) rest := by
  rw [mergeMembers]
  rfl

section Members

variable {below above : List (String × Setting)} {name : String}

theorem lookup_insertMember (name other : String) (value : Setting)
    (members : List (String × Setting)) :
    (insertMember name value members).lookup other =
      if other = name then some value else members.lookup other := by
  rw [insertMember_eq_insertEntry, Dict.lookup_insertEntry]

theorem Ascending.mem_iff (ascending : Ascending below) {value : Setting} :
    (name, value) ∈ below ↔ below.lookup name = some value :=
  (lookup_eq_some_iff_mem (ascending.imp String.ne_of_lt)).symm

theorem ascending_mergeMembers (ascending : Ascending below) :
    Ascending (mergeMembers below above) := by
  induction above generalizing below with
  | nil =>
      rw [mergeMembers]
      exact ascending
  | cons member rest ih =>
      rw [mergeMembers_cons]
      apply ih
      rw [insertMember_eq_insertEntry]
      exact Dict.ascending_insertEntry member.1 _ ascending

/-- Of two layers, the one above decides about the members that it has. -/
theorem lookup_mergeMembers (ascending : Ascending above) (name : String) :
    (mergeMembers below above).lookup name =
      match above.lookup name with
      | some value => some (merged below name value)
      | none => below.lookup name := by
  induction above generalizing below with
  | nil => rw [mergeMembers]; rfl
  | cons member rest ih =>
      obtain ⟨first, value⟩ := member
      obtain ⟨before, ascending⟩ := List.pairwise_cons.mp ascending
      rw [mergeMembers_cons, ih ascending, List.lookup_cons]
      by_cases same : name = first
      · subst same
        have absent : rest.lookup name = none := by
          apply List.lookup_eq_none_iff.mpr
          intro later listed
          have less := before later listed
          simpa using String.ne_of_lt less
        rw [absent, lookup_insertMember, if_pos rfl, beq_self_eq_true]
      · have kept : merged (insertMember first (merged below first value) below) name =
            merged below name := by
          funext held
          simp only [merged, lookup_insertMember, if_neg same]
        rw [lookup_insertMember, if_neg same, kept, beq_false_of_ne same]

theorem insertMember_of_above (value : Setting) (last : ∀ member ∈ below, member.1 < name) :
    insertMember name value below = below ++ [(name, value)] := by
  induction below with
  | nil => rfl
  | cons member rest ih =>
      obtain ⟨less, later⟩ := List.forall_mem_cons.mp last
      have notSame : name ≠ member.1 := (String.ne_of_lt less).symm
      have notLess : ¬ name < member.1 := String.lt_asymm less
      rw [insertMember, if_neg notSame, if_neg notLess, ih later, List.cons_append]

/-- Members that stand in order behind those of a layer are put behind them. -/
theorem mergeMembers_of_ascending (ascending : Ascending (below ++ above)) :
    mergeMembers below above = below ++ above := by
  induction above generalizing below with
  | nil => rw [mergeMembers, List.append_nil]
  | cons member rest ih =>
      obtain ⟨name, value⟩ := member
      have last : ∀ other ∈ below, other.1 < name := by
        intro other listed
        exact (List.pairwise_append.mp ascending).2.2 other listed _ List.mem_cons_self
      have absent : below.lookup name = none := by
        apply List.lookup_eq_none_iff.mpr
        intro other listed
        simpa using (String.ne_of_lt (last other listed)).symm
      have whole : merged below name value = value := by rw [merged, absent]
      rw [List.append_cons] at ascending
      rw [mergeMembers_cons, whole, insertMember_of_above value last, ih ascending,
        ← List.append_cons]

end Members

theorem ascending_ofMembers {members : List (String × Json)} (ascending : Json.Ascending members) :
    Ascending (ofMembers members) := by
  rw [ofMembers_eq_map]
  exact List.pairwise_map.mpr ascending

theorem lookup_ofMembers (name : String) (members : List (String × Json)) :
    (ofMembers members).lookup name = (Json.lookup name members).map ofJson := by
  induction members with
  | nil => rfl
  | cons member rest ih =>
      rw [ofMembers, List.lookup_cons, Json.lookup, ih]
      by_cases same : name = member.1
      · simp [same]
      · rw [if_neg same, beq_false_of_ne same]

/-- Above an empty table, an object is itself. -/
theorem merge_blank {members : List (String × Json)} (ascending : Json.Ascending members) :
    merge (.table []) (.ofJson (.object members)) = .ofJson (.object members) := by
  rw [ofJson, merge]
  rw [mergeMembers_of_ascending (ascending_ofMembers ascending), List.nil_append]

end Setting

end ResourceRouter
