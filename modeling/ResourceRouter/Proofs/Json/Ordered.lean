import ResourceRouter.Dict
import ResourceRouter.Json.Parser

set_option autoImplicit false

/-!
Ordered values: the members of every object stand in ascending order of their names, and no name
occurs twice. Values that are read from a text are ordered.
-/

namespace ResourceRouter.Json

/-- The names of the members ascend. -/
def Ascending (members : List (String × Json)) : Prop :=
  members.Pairwise fun first second => first.1 < second.1

/-- Every object within the value has its members in ascending order. -/
inductive IsOrdered : Json → Prop where
  | null : IsOrdered .null
  | bool (value : Bool) : IsOrdered (.bool value)
  | number (value : Number) : IsOrdered (.number value)
  | string (text : String) : IsOrdered (.string text)
  | array {elements : List Json} (each : ∀ element ∈ elements, IsOrdered element) :
      IsOrdered (.array elements)
  | object {members : List (String × Json)} (ascending : Ascending members)
      (each : ∀ member ∈ members, IsOrdered member.2) : IsOrdered (.object members)

theorem isOrdered_singleton {name : String} {value : Json} (ordered : value.IsOrdered) :
    IsOrdered (.object [(name, value)]) :=
  .object (List.pairwise_singleton _ _) (by simpa using ordered)

/-- Objects and dictionaries keep their entries in the same way. -/
theorem insertMember_eq_insertEntry (name : String) (value : Json)
    (members : List (String × Json)) :
    insertMember name value members = Dict.insertEntry name value members := by
  induction members with
  | nil => rfl
  | cons first rest ih => rw [insertMember, Dict.insertEntry, ih]

section Insert

variable {name : String} {value : Json} {members : List (String × Json)}

theorem Ascending.insertMember (ascending : Ascending members) :
    Ascending (insertMember name value members) := by
  rw [insertMember_eq_insertEntry]
  exact Dict.ascending_insertEntry name value ascending

theorem mem_insertMember {member : String × Json}
    (listed : member ∈ insertMember name value members) :
    member = (name, value) ∨ member ∈ members := by
  rw [insertMember_eq_insertEntry] at listed
  exact Dict.mem_insertEntry listed

end Insert

section Parse

/-- An open container holds ordered values only, and its members ascend. -/
def Frame.IsOrdered : Frame → Prop
  | .elements done => ∀ element ∈ done, element.IsOrdered
  | .members done | .member done _ => (Json.object done).IsOrdered

/-- What was read so far is ordered. -/
def Expected.IsOrdered : Expected → Prop
  | .nothing result => result.IsOrdered
  | _ => True

/-- A token brings no value but an ordered one. -/
def Token.IsOrdered : Token → Prop
  | .scalar value => value.IsOrdered
  | _ => True

/-- Everything that a run of the reader holds is ordered. -/
structure IsOrderedState (state : Expected × List Frame) : Prop where
  expected : state.1.IsOrdered
  frames : ∀ frame ∈ state.2, frame.IsOrdered

theorem isOrdered_deliver {value : Json} (ordered : value.IsOrdered) {frames : List Frame}
    (held : ∀ frame ∈ frames, frame.IsOrdered) : IsOrderedState (deliver value frames) := by
  cases frames with
  | nil => exact ⟨ordered, by simp [deliver]⟩
  | cons frame outer =>
      obtain ⟨inner, others⟩ := List.forall_mem_cons.mp held
      cases frame with
      | elements done =>
          refine ⟨trivial, List.forall_mem_cons.mpr ⟨?_, others⟩⟩
          exact List.forall_mem_cons.mpr ⟨ordered, inner⟩
      | members done => exact ⟨trivial, List.forall_mem_cons.mpr ⟨inner, others⟩⟩
      | member done name =>
          refine ⟨trivial, List.forall_mem_cons.mpr ⟨?_, others⟩⟩
          cases inner with
          | object ascending each =>
              refine .object ascending.insertMember fun member listed => ?_
              rcases mem_insertMember listed with rfl | earlier
              · exact ordered
              · exact each member earlier

theorem isOrdered_beginValue {limit : Nat} {frames : List Frame} {token : Token}
    {next : Expected × List Frame} (held : ∀ frame ∈ frames, frame.IsOrdered)
    (ordered : token.IsOrdered) (taken : beginValue limit frames token = some next) :
    IsOrderedState next := by
  cases token with
  | text value =>
      obtain rfl := Option.some.inj taken
      exact isOrdered_deliver (.string value) held
  | scalar value =>
      obtain rfl := Option.some.inj taken
      exact isOrdered_deliver ordered held
  | openArray =>
      simp only [beginValue, Option.ite_none_right_eq_some, Option.some.injEq] at taken
      obtain ⟨-, rfl⟩ := taken
      exact ⟨trivial, List.forall_mem_cons.mpr ⟨by simp [Frame.IsOrdered], held⟩⟩
  | openObject =>
      simp only [beginValue, Option.ite_none_right_eq_some, Option.some.injEq] at taken
      obtain ⟨-, rfl⟩ := taken
      exact ⟨trivial, List.forall_mem_cons.mpr ⟨.object .nil (by simp), held⟩⟩
  | _ => cases taken

/-- Each token leaves what is held in order. -/
theorem isOrdered_step {limit : Nat} {state next : Expected × List Frame} {token : Token}
    (held : IsOrderedState state) (ordered : token.IsOrdered)
    (taken : step limit state.1 state.2 token = some next) : IsOrderedState next := by
  obtain ⟨expected, frames⟩ := state
  obtain ⟨-, held⟩ := held
  dsimp only at held taken
  unfold step at taken
  split at taken
  · exact isOrdered_beginValue held ordered taken
  · obtain rfl := Option.some.inj taken
    exact isOrdered_deliver (.array (by simp)) (List.forall_mem_cons.mp held).2
  · exact isOrdered_beginValue held ordered taken
  · obtain rfl := Option.some.inj taken
    exact isOrdered_deliver (.object .nil (by simp)) (List.forall_mem_cons.mp held).2
  · obtain rfl := Option.some.inj taken
    exact ⟨trivial, held⟩
  · obtain rfl := Option.some.inj taken
    exact ⟨trivial, held⟩
  · obtain rfl := Option.some.inj taken
    obtain ⟨inner, others⟩ := List.forall_mem_cons.mp held
    exact ⟨trivial, List.forall_mem_cons.mpr ⟨inner, others⟩⟩
  · obtain rfl := Option.some.inj taken
    exact ⟨trivial, held⟩
  · obtain rfl := Option.some.inj taken
    obtain ⟨inner, others⟩ := List.forall_mem_cons.mp held
    exact isOrdered_deliver (.array fun element listed => inner element (List.mem_reverse.mp listed))
      others
  · obtain rfl := Option.some.inj taken
    exact ⟨trivial, held⟩
  · obtain rfl := Option.some.inj taken
    obtain ⟨inner, others⟩ := List.forall_mem_cons.mp held
    exact isOrdered_deliver inner others
  · cases taken

theorem isOrdered_build {limit : Nat} {tokens : List Token}
    (ordered : ∀ token ∈ tokens, token.IsOrdered) {state : Expected × List Frame}
    (held : IsOrderedState state) {result : Json}
    (built : build limit state.1 state.2 tokens = some result) : result.IsOrdered := by
  induction tokens generalizing state with
  | nil =>
      obtain ⟨expected, frames⟩ := state
      cases expected with
      | nothing value =>
          obtain rfl := Option.some.inj built
          exact held.expected
      | _ => cases built
  | cons token rest ih =>
      obtain ⟨first, later⟩ := List.forall_mem_cons.mp ordered
      rw [build] at built
      split at built
      · cases built
      · next next frames taken => exact ih later (isOrdered_step held first taken) built

theorem isOrdered_of_wordValue? {word : List Char} {value : Json}
    (read : wordValue? word = some value) : value.IsOrdered := by
  unfold wordValue? at read
  repeat' split at read
  all_goals cases read
  · exact .bool true
  · exact .bool false
  · exact .null

theorem isOrdered_of_mark? {c : Char} {token : Token} (read : mark? c = some token) :
    token.IsOrdered := by
  unfold mark? at read
  repeat' split at read
  all_goals cases read
  all_goals trivial

/-- The scalars of a text are ordered: none of them is an object. -/
theorem isOrdered_of_tokens? {text : List Char} {tokens : List Token}
    (scanned : tokens? text = some tokens) : ∀ token ∈ tokens, token.IsOrdered := by
  fun_induction tokens? text generalizing tokens with
  | case1 =>
      obtain rfl := Option.some.inj scanned
      simp
  | case2 c rest gap ih => exact ih scanned
  | case3 | case5 | case7 | case9 => cases scanned
  | case4 rest text left taken gap ih =>
      obtain ⟨later, found, rfl⟩ := Option.map_eq_some_iff.mp scanned
      exact List.forall_mem_cons.mpr ⟨trivial, ih found⟩
  | case6 c rest gap quote letter value read ih =>
      obtain ⟨later, found, rfl⟩ := Option.map_eq_some_iff.mp scanned
      exact List.forall_mem_cons.mpr ⟨isOrdered_of_wordValue? read, ih found⟩
  | case8 c rest gap quote letter digit value read ih =>
      obtain ⟨later, found, rfl⟩ := Option.map_eq_some_iff.mp scanned
      exact List.forall_mem_cons.mpr ⟨.number value, ih found⟩
  | case10 c rest gap quote letter digit token read ih =>
      obtain ⟨later, found, rfl⟩ := Option.map_eq_some_iff.mp scanned
      exact List.forall_mem_cons.mpr ⟨isOrdered_of_mark? read, ih found⟩

/-- A value that is read from a text is ordered. -/
theorem isOrdered_of_parse? {limit : Nat} {text : String} {value : Json}
    (read : parse? limit text = some value) : value.IsOrdered := by
  obtain ⟨tokens, scanned, built⟩ := Option.bind_eq_some_iff.mp read
  have start : IsOrderedState (.value, []) := ⟨trivial, by simp⟩
  exact isOrdered_build (isOrdered_of_tokens? scanned) start built

end Parse

end ResourceRouter.Json
