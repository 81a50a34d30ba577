import ResourceRouter.Config.Decode
import ResourceRouter.Proofs.Json.Place

set_option autoImplicit false

/-!
How problems come up from the parts of a setting. Whether a member, an item or a field is refused does
not depend on the others, so in a setting that was accepted a single part that is replaced by one that
is refused is the first problem of the whole, seen from further up the path.
-/

namespace ResourceRouter

/-- The problem with its path from one step further up. -/
def Problem.below (problem : Problem) (step : String) : Problem :=
  { problem with path := step :: problem.path }

/-- The problem with its path from further up. -/
def Problem.under (problem : Problem) (path : List Json.Step) : Problem :=
  { problem with path := path.map Json.Step.text ++ problem.path }

namespace Setting

variable {α β γ σ : Type}

/-- The problem that a setting is refused for, if it is. -/
def problem? : Decoded α → Option Problem
  | .ok _ => none
  | .error problem => some problem

theorem problem?_eq_some_iff {decoded : Decoded α} {problem : Problem} :
    problem? decoded = some problem ↔ decoded = .error problem := by
  cases decoded <;> simp [problem?]

@[simp] theorem problem?_map (change : α → β) (decoded : Decoded α) :
    problem? (decoded.map change) = problem? decoded := by
  cases decoded <;> rfl

theorem insertMember_eq_insertEntry (name : String) (value : Setting)
    (members : List (String × Setting)) :
    insertMember name value members = Dict.insertEntry name value members := by
  induction members with
  | nil => rfl
  | cons first rest ih => rw [insertMember, Dict.insertEntry, ih]

section Members

variable {add : σ → String → Setting → Decoded σ}

/-- The problem of a member is the same after whatever members. -/
def IsUniform (add : σ → String → Setting → Decoded σ) : Prop :=
  ∀ first second name value, problem? (add first name value) = problem? (add second name value)

/-- A table is refused for the first problem of a member. -/
theorem problem?_decodeMembers (uniform : IsUniform add) (state : σ)
    (members : List (String × Setting)) :
    problem? (decodeMembers add state members) =
      members.findSome? fun member =>
        (problem? (add state member.1 member.2)).map (·.below member.1) := by
  induction members generalizing state with
  | nil => rfl
  | cons member rest ih =>
      obtain ⟨name, value⟩ := member
      rw [decodeMembers, List.findSome?_cons]
      cases read : add state name value with
      | error problem => rfl
      | ok next =>
          change problem? (decodeMembers add next rest) = _
          simp only [ih next, uniform next state]
          rfl

theorem problem?_decodeMembers_eq_none_iff (uniform : IsUniform add) {state : σ}
    {members : List (String × Setting)} :
    problem? (decodeMembers add state members) = none ↔
      ∀ member ∈ members, problem? (add state member.1 member.2) = none := by
  rw [problem?_decodeMembers uniform, List.findSome?_eq_none_iff]
  simp only [Option.map_eq_none_iff]

/-- The only member that is refused is the problem of the table. -/
theorem problem?_decodeMembers_of_only (uniform : IsUniform add) {state : σ}
    {members : List (String × Setting)} {name : String} {value : Setting} {cause : Problem}
    (listed : (name, value) ∈ members) (refused : problem? (add state name value) = some cause)
    (others : ∀ member ∈ members,
      member = (name, value) ∨ problem? (add state member.1 member.2) = none) :
    problem? (decodeMembers add state members) = some (cause.below name) := by
  rw [problem?_decodeMembers uniform]
  cases found : members.findSome? fun member =>
      (problem? (add state member.1 member.2)).map (·.below member.1) with
  | none =>
      have nothing := List.findSome?_eq_none_iff.mp found _ listed
      rw [refused] at nothing
      cases nothing
  | some problem =>
      obtain ⟨member, given, hit⟩ := List.exists_of_findSome?_eq_some found
      rcases others member given with rfl | accepted
      · rw [refused] at hit
        rw [← hit]
        rfl
      · rw [accepted] at hit
        cases hit

theorem problem?_decodeMembers_insertMember (uniform : IsUniform add) {state : σ}
    {members : List (String × Setting)} {name : String} {value : Setting} {cause : Problem}
    (accepted : problem? (decodeMembers add state members) = none)
    (refused : problem? (add state name value) = some cause) :
    problem? (decodeMembers add state (insertMember name value members)) =
      some (cause.below name) := by
  have each := (problem?_decodeMembers_eq_none_iff uniform).mp accepted
  rw [insertMember_eq_insertEntry]
  have listed : (name, value) ∈ Dict.insertEntry name value members := by
    have found : (Dict.insertEntry name value members).lookup name = some value := by
      rw [Dict.lookup_insertEntry, if_pos rfl]
    obtain ⟨before, after, split, -⟩ := List.lookup_eq_some_iff.mp found
    rw [split]
    simp
  refine problem?_decodeMembers_of_only uniform listed refused fun member given => ?_
  exact (Dict.mem_insertEntry given).imp_right (each member)

end Members

section Items

theorem problem?_decodeItems_cons (decode : Setting → Decoded α) (start : Nat) (item : Setting)
    (rest : List Setting) :
    problem? (decodeItems decode start (item :: rest)) =
      ((problem? (decode item)).map (·.below (toString start))).or
        (problem? (decodeItems decode (start + 1) rest)) := by
  rw [decodeItems]
  cases decode item with
  | error problem => rfl
  | ok value => cases decodeItems decode (start + 1) rest <;> rfl

/-- One item of a list that was accepted is replaced. -/
theorem problem?_decodeItems_set {decode : Setting → Decoded α} {items : List Setting}
    {position start : Nat} {held : Setting} (found : items[position]? = some held)
    (accepted : problem? (decodeItems decode start items) = none) :
    problem? (decode held) = none ∧
      ∀ value cause, problem? (decode value) = some cause →
        problem? (decodeItems decode start (items.set position value)) =
          some (cause.below (toString (start + position))) := by
  induction items generalizing start position with
  | nil => cases found
  | cons item rest ih =>
      rw [problem?_decodeItems_cons, Option.or_eq_none_iff, Option.map_eq_none_iff] at accepted
      obtain ⟨first, later⟩ := accepted
      cases position with
      | zero =>
          obtain rfl := Option.some.inj found
          refine ⟨first, fun value cause refused => ?_⟩
          rw [List.set_cons_zero, problem?_decodeItems_cons, refused]
          rfl
      | succ position =>
          obtain ⟨own, replaced⟩ := ih found later
          refine ⟨own, fun value cause refused => ?_⟩
          rw [List.set_cons_succ, problem?_decodeItems_cons, first, replaced value cause refused,
            Nat.add_right_comm, Nat.add_assoc]
          rfl

end Items

section Fields

/-- The problem of a field is the same after whatever fields. -/
def IsUniformRule (rule : FieldRule σ) : Prop :=
  ∀ first second value, problem? (rule.read first value) = problem? (rule.read second value)

theorem problem?_read_of (name : String) (decode : Setting → Decoded α) (store : σ → α → σ)
    (state : σ) (value : Setting) :
    problem? ((FieldRule.of name decode store).read state value) = problem? (decode value) := by
  rw [FieldRule.of, problem?_map]

theorem isUniformRule_of (name : String) (decode : Setting → Decoded α) (store : σ → α → σ) :
    IsUniformRule (.of name decode store) := fun first second value => by
  rw [problem?_read_of, problem?_read_of]

/-- How a record reads a member. -/
def readField (rules : List (FieldRule σ)) (state : σ) (name : String) (value : Setting) :
    Decoded σ :=
  match rules.find? (·.name == name) with
  | some rule => rule.read state value
  | none => fail .unknownField

variable {rules : List (FieldRule σ)}

theorem decodeRecord_table (rules : List (FieldRule σ)) (start : σ)
    (members : List (String × Setting)) :
    decodeRecord rules start (.table members) = decodeMembers (readField rules) start members :=
  rfl

theorem isUniform_readField (uniform : ∀ rule ∈ rules, IsUniformRule rule) :
    IsUniform (readField rules) := by
  intro first second name value
  unfold readField
  cases found : rules.find? (·.name == name) with
  | none => rfl
  | some rule => exact uniform rule (List.mem_of_find?_eq_some found) first second value

theorem problem?_readField_of {name : String} {decode : Setting → Decoded α} {store : σ → α → σ}
    (ruled : rules.find? (·.name == name) = some (.of name decode store)) (state : σ)
    (value : Setting) : problem? (readField rules state name value) = problem? (decode value) := by
  rw [readField, ruled]
  exact problem?_read_of name decode store state value

theorem problem?_readField_unknown {name : String} (unknown : name ∉ rules.map (·.name))
    (state : σ) (value : Setting) :
    problem? (readField rules state name value) = some ⟨.unknownField, []⟩ := by
  have missing : rules.find? (·.name == name) = none := by
    apply List.find?_eq_none.mpr
    intro rule listed same
    exact unknown (List.mem_map.mpr ⟨rule, listed, by simpa using same⟩)
  rw [readField, missing]
  rfl

/-- With a member that is none of the given fields, a table that was accepted is refused for it. -/
def RefusesUnknown (decode : Setting → Decoded α) (fields : List String) : Prop :=
  ∀ {members : List (String × Setting)} {name : String}, name ∉ fields →
    problem? (decode (.table members)) = none → ∀ value,
      problem? (decode (.table (insertMember name value members))) = some ⟨.unknownField, [name]⟩

theorem refusesUnknown_decodeRecord (uniform : ∀ rule ∈ rules, IsUniformRule rule) (start : σ) :
    RefusesUnknown (decodeRecord rules start) (rules.map (·.name)) := by
  intro members name unknown accepted value
  rw [decodeRecord_table] at accepted ⊢
  exact problem?_decodeMembers_insertMember (isUniform_readField uniform) accepted
    (problem?_readField_unknown unknown start value)

/-- The state that fields are read into shows in no problem of a record. -/
theorem problem?_decodePositions_congr (uniform : ∀ rule ∈ rules, IsUniformRule rule)
    (position : Nat) (first second : σ) (items : List Setting) :
    problem? (decodePositions position first rules items) =
      problem? (decodePositions position second rules items) := by
  induction rules generalizing position first second items with
  | nil => cases items <;> rfl
  | cons rule rules ih =>
      obtain ⟨own, others⟩ := List.forall_mem_cons.mp uniform
      cases items with
      | nil => rfl
      | cons item items =>
          have same := own first second item
          simp only [decodePositions]
          cases readFirst : rule.read first item <;> cases readSecond : rule.read second item <;>
            rw [readFirst, readSecond] at same
          · rw [Option.some.inj same]
          · cases same
          · cases same
          · exact ih others _ _ _ _

theorem problem?_decodePositions_cons {rule : FieldRule σ}
    (uniform : ∀ rule ∈ rules, IsUniformRule rule) (position : Nat) (state : σ) (item : Setting)
    (items : List Setting) :
    problem? (decodePositions position state (rule :: rules) (item :: items)) =
      ((problem? (rule.read state item)).map (·.below (toString position))).or
        (problem? (decodePositions (position + 1) state rules items)) := by
  rw [decodePositions]
  cases read : rule.read state item with
  | error problem => rfl
  | ok next => exact problem?_decodePositions_congr uniform (position + 1) next state items

/-- One field of a record that was accepted as a list is replaced. -/
theorem problem?_decodePositions_set (uniform : ∀ rule ∈ rules, IsUniformRule rule)
    {rule : FieldRule σ} {items : List Setting} {position start : Nat} {state : σ} {held : Setting}
    (ruled : rules[position]? = some rule) (found : items[position]? = some held)
    (accepted : problem? (decodePositions start state rules items) = none) :
    problem? (rule.read state held) = none ∧
      ∀ value cause, problem? (rule.read state value) = some cause →
        problem? (decodePositions start state rules (items.set position value)) =
          some (cause.below (toString (start + position))) := by
  induction rules generalizing start position items with
  | nil => cases ruled
  | cons first rules ih =>
      obtain ⟨-, others⟩ := List.forall_mem_cons.mp uniform
      cases items with
      | nil => cases found
      | cons item items =>
          rw [problem?_decodePositions_cons others, Option.or_eq_none_iff,
            Option.map_eq_none_iff] at accepted
          obtain ⟨own, later⟩ := accepted
          cases position with
          | zero =>
              obtain rfl := Option.some.inj ruled
              obtain rfl := Option.some.inj found
              refine ⟨own, fun value cause refused => ?_⟩
              rw [List.set_cons_zero, problem?_decodePositions_cons others, refused]
              rfl
          | succ position =>
              obtain ⟨part, replaced⟩ := ih others ruled found later
              refine ⟨part, fun value cause refused => ?_⟩
              rw [List.set_cons_succ, problem?_decodePositions_cons others, own,
                replaced value cause refused, Nat.add_right_comm, Nat.add_assoc]
              rfl

end Fields

section Documents

theorem ofElements_eq_map (elements : List Json) : ofElements elements = elements.map ofJson := by
  induction elements with
  | nil => rfl
  | cons element rest ih => rw [ofElements, ih, List.map_cons]

theorem ofMembers_eq_map (members : List (String × Json)) :
    ofMembers members = members.map fun member => (member.1, ofJson member.2) := by
  induction members with
  | nil => rfl
  | cons member rest ih => rw [ofMembers, ih, List.map_cons]

theorem ofMembers_insertMember (name : String) (value : Json) (members : List (String × Json)) :
    ofMembers (Json.insertMember name value members) =
      insertMember name (ofJson value) (ofMembers members) := by
  induction members with
  | nil => rfl
  | cons member rest ih =>
      obtain ⟨other, held⟩ := member
      rw [Json.insertMember, ofMembers, insertMember]
      split
      · rfl
      split
      · rfl
      · rw [ofMembers, ih]

/-- A decoder leaves what stands at a place to another one: a whole that is accepted has an accepted
part there, and with a part that is refused in its place it is refused for the same problem, seen from
further up. -/
structure Reads (outer : Setting → Decoded α) (path : List Json.Step) (inner : Setting → Decoded β) :
    Prop where
  part : ∀ {whole part : Json}, whole.at? path = some part → problem? (outer (.ofJson whole)) = none →
    problem? (inner (.ofJson part)) = none
  replaced : ∀ {whole part new : Json} {cause : Problem}, whole.at? path = some part →
    problem? (outer (.ofJson whole)) = none → problem? (inner (.ofJson new)) = some cause →
      problem? (outer (.ofJson (whole.replace path new))) = some (cause.under path)

variable {outer : Setting → Decoded α} {middle : Setting → Decoded β} {inner : Setting → Decoded γ}

theorem Reads.refl (decode : Setting → Decoded α) : Reads decode [] decode where
  part {whole part} found accepted := by
    obtain rfl := Option.some.inj found
    exact accepted
  replaced _ _ refused := refused

theorem Reads.trans {first second : List Json.Step} (upper : Reads outer first middle)
    (lower : Reads middle second inner) : Reads outer (first ++ second) inner where
  part found accepted := by
    rw [Json.at?_append] at found
    obtain ⟨held, reached, within⟩ := Option.bind_eq_some_iff.mp found
    exact lower.part within (upper.part reached accepted)
  replaced {whole part new cause} found accepted refused := by
    rw [Json.at?_append] at found
    obtain ⟨held, reached, within⟩ := Option.bind_eq_some_iff.mp found
    have below := lower.replaced within (upper.part reached accepted) refused
    rw [Json.replace_append reached, upper.replaced reached accepted below]
    simp [Problem.under]

/-- It is enough to look at what one step leads to. -/
theorem Reads.of_child {step : Json.Step}
    (read : ∀ whole part : Json, whole.child? step = some part →
      problem? (outer (.ofJson whole)) = none →
        problem? (inner (.ofJson part)) = none ∧
          ∀ new cause, problem? (inner (.ofJson new)) = some cause →
            problem? (outer (.ofJson (whole.putChild step new))) = some (cause.below step.text)) :
    Reads outer [step] inner where
  part {whole part} found accepted := by
    rw [Json.at?_singleton] at found
    exact (read whole part found accepted).1
  replaced {whole part new cause} found accepted refused := by
    rw [Json.at?_singleton] at found
    rw [Json.replace_cons found]
    exact (read whole part found accepted).2 new cause refused

/-- Decoders that visit the members of a table leave a member to the decoder that decides about it,
under a name that any value is accepted under. -/
theorem Reads.of_members {outer : Setting → Decoded σ} {add : σ → String → Setting → Decoded σ}
    {state : σ} {name : String}
    (table : ∀ members, outer (.table members) = decodeMembers add state members)
    (uniform : IsUniform add)
    (own : ∀ held, problem? (add state name held) = none →
      ∀ value, problem? (add state name value) = problem? (inner value)) :
    Reads outer [.member name] inner := by
  refine .of_child fun whole part found accepted => ?_
  cases whole with
  | object members =>
      rw [ofJson, table] at accepted
      have listed : (name, ofJson part) ∈ ofMembers members := by
        rw [ofMembers_eq_map]
        exact List.mem_map.mpr ⟨_, Json.mem_of_lookup found, rfl⟩
      have held : problem? (add state name (.ofJson part)) = none :=
        (problem?_decodeMembers_eq_none_iff uniform).mp accepted _ listed
      have same := own _ held
      refine ⟨same _ ▸ held, fun new cause refused => ?_⟩
      rw [Json.putChild, ofJson, table, ofMembers_insertMember]
      exact problem?_decodeMembers_insertMember uniform accepted ((same _).trans refused)
  | _ => cases found

/-- The same for decoders that visit the items of a list, at a position. -/
theorem Reads.of_items {position : Nat}
    (read : ∀ items held, items[position]? = some held → problem? (outer (.list items)) = none →
      problem? (inner held) = none ∧
        ∀ value cause, problem? (inner value) = some cause →
          problem? (outer (.list (items.set position value))) =
            some (cause.below (toString position))) :
    Reads outer [.element position] inner := by
  refine .of_child fun whole part found accepted => ?_
  cases whole with
  | array elements =>
      have listed : (ofElements elements)[position]? = some (ofJson part) := by
        rw [ofElements_eq_map, List.getElem?_map, show elements[position]? = some part from found]
        rfl
      obtain ⟨own, replaced⟩ := read _ _ listed accepted
      refine ⟨own, fun new cause refused => ?_⟩
      have set : ofElements (elements.set position new) =
          (ofElements elements).set position (ofJson new) := by
        rw [ofElements_eq_map, ofElements_eq_map, List.map_set]
      rw [Json.putChild, ofJson, set]
      exact replaced _ cause refused
  | _ => cases found

theorem reads_decodeDict (decode : Setting → Decoded α) (name : String) :
    Reads (decodeDict decode) [.member name] decode :=
  .of_members (fun _ => rfl) (fun first second name value => by simp only [problem?_map])
    fun held accepted value => problem?_map _ _

theorem reads_decodeByVerb (decode : Setting → Decoded α) (name : String) :
    Reads (decodeByVerb decode) [.member name] decode := by
  refine .of_members (fun _ => rfl) (fun first second name value => ?_)
    fun held accepted value => ?_
  · cases Verb.ofName? name with
    | none => rfl
    | some verb => simp only [problem?_map]
  · cases named : Verb.ofName? name with
    | none =>
        rw [named] at accepted
        cases accepted
    | some verb => exact problem?_map _ _

theorem reads_decodeList (decode : Setting → Decoded α) (position : Nat) :
    Reads (decodeList decode) [.element position] decode := by
  refine .of_items fun items held found accepted => ?_
  have read := problem?_decodeItems_set found accepted
  rwa [Nat.zero_add] at read

variable {rules : List (FieldRule σ)} {decode : Setting → Decoded α} {store : σ → α → σ}
  {name : String}

theorem reads_decodeRecord_member (uniform : ∀ rule ∈ rules, IsUniformRule rule)
    (ruled : rules.find? (·.name == name) = some (.of name decode store)) (start : σ) :
    Reads (decodeRecord rules start) [.member name] decode :=
  .of_members (decodeRecord_table rules start) (isUniform_readField uniform)
    fun _ _ value => problem?_readField_of ruled start value

theorem reads_decodeRecord_element (uniform : ∀ rule ∈ rules, IsUniformRule rule) {position : Nat}
    (ruled : rules[position]? = some (.of name decode store)) (start : σ) :
    Reads (decodeRecord rules start) [.element position] decode := by
  refine .of_items fun items held found accepted => ?_
  have read := problem?_decodePositions_set uniform ruled found accepted
  simp only [problem?_read_of, Nat.zero_add] at read
  exact read

end Documents

end Setting

end ResourceRouter
