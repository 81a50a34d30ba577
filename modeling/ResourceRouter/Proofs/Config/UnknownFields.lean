import ResourceRouter.Proofs.Config.Layers
import ResourceRouter.Proofs.Stage

set_option autoImplicit false

/-!
Members that are no fields. Wherever a configuration has an object with fixed fields, a member of
another name is refused with the path that leads to it: no misspelt key is passed over.
-/

namespace ResourceRouter

namespace Config

/-- The objects with fixed fields. -/
inductive RecordKind where
  | config
  | collection
  | action
  | type
deriving DecidableEq, Repr

/-- The names of the fields. -/
def RecordKind.fields : RecordKind → List String
  | .config => Setting.configRules.map (·.name)
  | .collection => Setting.collectionRules.map (·.name)
  | .action => Setting.actionRules.map (·.name)
  | .type => Setting.typeRules.map (·.name)

/-- The steps from a collection to its four tables of actions, by name, or by position where the
collection is written as a list of its fields. -/
def actionSteps : List Json.Step :=
  [.member "collection_actions", .member "resource_actions", .member "subcollection_actions",
    .member "subresource_actions", .element 7, .element 8, .element 9, .element 10]

/-- Where the objects with fixed fields stand in a document. -/
inductive RecordPath : RecordKind → List Json.Step → Prop where
  | config : RecordPath .config []
  | collection (name : String) : RecordPath .collection [.member "collections", .member name]
  | action (name : String) {table : Json.Step} (actions : table ∈ actionSteps) (verb : String)
      (position : Nat) :
      RecordPath .action
        [.member "collections", .member name, table, .member verb, .element position]
  | type (name : String) : RecordPath .type [.member "types", .member name]

end Config

namespace Setting

open Config (standardSettings ofDocument)

section Rules

theorem isUniformRule_configRules : ∀ rule ∈ configRules, IsUniformRule rule := by
  simp [configRules, isUniformRule_of]

theorem isUniformRule_collectionRules : ∀ rule ∈ collectionRules, IsUniformRule rule := by
  simp [collectionRules, isUniformRule_of]

theorem isUniformRule_actionRules : ∀ rule ∈ actionRules, IsUniformRule rule := by
  simp [actionRules, isUniformRule_of]

theorem isUniformRule_typeRules : ∀ rule ∈ typeRules, IsUniformRule rule := by
  simp [typeRules, isUniformRule_of]

/-- From a collection, each of the steps leads to a table of actions. -/
theorem reads_decodeCollection {table : Json.Step} (actions : table ∈ Config.actionSteps) :
    Reads decodeCollection [table] decodeActions := by
  have member {name : String} {store : CollectionConfig → ByVerb (List ActionConfig) → _}
      (ruled : collectionRules.find? (·.name == name) = some (.of name decodeActions store)) :=
    reads_decodeRecord_member isUniformRule_collectionRules ruled .blank
  have element {name : String} {position : Nat}
      {store : CollectionConfig → ByVerb (List ActionConfig) → _}
      (ruled : collectionRules[position]? = some (.of name decodeActions store)) :=
    reads_decodeRecord_element isUniformRule_collectionRules ruled .blank
  simp only [Config.actionSteps, List.mem_cons, List.not_mem_nil, or_false] at actions
  rcases actions with rfl | rfl | rfl | rfl | rfl | rfl | rfl | rfl
  · exact member rfl
  · exact member rfl
  · exact member rfl
  · exact member rfl
  · exact element rfl
  · exact element rfl
  · exact element rfl
  · exact element rfl

theorem refusesUnknown_decodeAction : RefusesUnknown decodeAction (actionRules.map (·.name)) := by
  intro members name unknown accepted value
  have drafted : problem? (decodeRecord actionRules ⟨none, ⟨"", none, false, none⟩⟩
      (.table members)) = none := by
    rw [decodeAction] at accepted
    cases read : decodeRecord actionRules ⟨none, ⟨"", none, false, none⟩⟩ (.table members) with
    | error problem =>
        rw [read] at accepted
        cases accepted
    | ok draft => rfl
  have refused := refusesUnknown_decodeRecord isUniformRule_actionRules _ unknown drafted value
  rw [problem?_eq_some_iff] at refused ⊢
  rw [decodeAction, refused]
  rfl

end Rules

section Document

variable {members : List (String × Json)} {field name : String}

theorem ofDocument_object (members : List (String × Json)) :
    ofDocument (.object members) =
      decodeMembers (readField configRules) .standard
        (mergeMembers standardSettings (ofMembers members)) :=
  rfl

theorem ascending_standardSettings : Ascending standardSettings := by
  simp only [Ascending, standardSettings]
  decide

/-- In a document that was accepted, every member is, as the standard settings complete it. -/
theorem problem?_readField_of_ofDocument (ascending : Json.Ascending members)
    (accepted : problem? (ofDocument (.object members)) = none) {held : Json}
    (found : Json.lookup field members = some held) :
    problem? (readField configRules .standard field
      (merged standardSettings field (.ofJson held))) = none := by
  have uniform := isUniform_readField isUniformRule_configRules
  have listed : (field, merged standardSettings field (.ofJson held)) ∈
      mergeMembers standardSettings (ofMembers members) := by
    rw [(ascending_mergeMembers ascending_standardSettings).mem_iff,
      lookup_mergeMembers (ascending_ofMembers ascending), lookup_ofMembers, found]
    rfl
  exact (problem?_decodeMembers_eq_none_iff uniform).mp accepted _ listed

/-- With one member that is refused, a document that was accepted is. -/
theorem problem?_ofDocument_insertMember (ascending : Json.Ascending members)
    (accepted : problem? (ofDocument (.object members)) = none) {value : Json} {cause : Problem}
    (refused : problem? (readField configRules .standard name
      (merged standardSettings name (.ofJson value))) = some cause) :
    problem? (ofDocument (.object (Json.insertMember name value members))) =
      some (cause.below name) := by
  have uniform := isUniform_readField isUniformRule_configRules
  rw [ofDocument_object] at accepted ⊢
  have each := (problem?_decodeMembers_eq_none_iff uniform).mp accepted
  have standard := ascending_standardSettings
  have decided (other : String) :
      (mergeMembers standardSettings (ofMembers (Json.insertMember name value members))).lookup
          other =
        if other = name then some (merged standardSettings name (.ofJson value))
        else (mergeMembers standardSettings (ofMembers members)).lookup other := by
    rw [lookup_mergeMembers (ascending_ofMembers ascending.insertMember),
      lookup_mergeMembers (ascending_ofMembers ascending), ofMembers_insertMember,
      lookup_insertMember]
    by_cases same : other = name
    · simp [same]
    · simp [same]
  refine problem?_decodeMembers_of_only uniform ?_ refused fun member given => ?_
  · rw [(ascending_mergeMembers standard).mem_iff, decided, if_pos rfl]
  · have found := (ascending_mergeMembers standard).mem_iff.mp given
    rw [decided] at found
    split at found
    · next same => exact .inl (Prod.ext same (Option.some.inj found).symm)
    · exact .inr (each _ ((ascending_mergeMembers standard).mem_iff.mpr found))

/-- A table of which the standard settings have nothing is taken as the document has it. -/
theorem merged_table (blank : standardSettings.lookup field = some (.table []))
    (ascending : Json.Ascending members) :
    merged standardSettings field (.ofJson (.object members)) = .ofJson (.object members) := by
  rw [merged, blank]
  exact merge_blank ascending

/-- Each entry of a table of the document is left to the decoder of entries, and so is each part of
it. -/
theorem ofDocument_reads {α β : Type} {decode : Setting → Decoded α} {inner : Setting → Decoded β}
    {store : Config → Dict α → Config}
    (ruled : configRules.find? (·.name == field) = some (.of field (decodeDict decode) store))
    (blank : standardSettings.lookup field = some (.table [])) {path : List Json.Step}
    (reads : Reads decode path inner) {document part : Json} (ordered : document.IsOrdered)
    (accepted : problem? (ofDocument document) = none)
    (found : document.at? (.member field :: .member name :: path) = some part) :
    problem? (inner (.ofJson part)) = none ∧
      ∀ new cause, problem? (inner (.ofJson new)) = some cause →
        problem? (ofDocument (document.replace (.member field :: .member name :: path) new)) =
          some (cause.under (.member field :: .member name :: path)) := by
  have deeper : Reads (decodeDict decode) (.member name :: path) inner :=
    (reads_decodeDict decode name).trans reads
  obtain ⟨table, reached, within⟩ := Option.bind_eq_some_iff.mp found
  obtain ⟨entry, listed, -⟩ := Option.bind_eq_some_iff.mp within
  cases ordered with
  | object ascending each =>
      have tableOrdered : table.IsOrdered := each _ (Json.mem_of_lookup reached)
      cases tableOrdered with
      | object entriesAscend _ =>
          have own := problem?_readField_of_ofDocument ascending accepted reached
          rw [merged_table blank entriesAscend, problem?_readField_of ruled] at own
          refine ⟨deeper.part within own, fun new cause refused => ?_⟩
          have below := deeper.replaced within own refused
          -- The table keeps its order, so it is still taken as the document has it.
          rw [Json.replace_cons listed, ← problem?_readField_of ruled .standard, Json.putChild,
            ← merged_table blank entriesAscend.insertMember] at below
          rw [Json.replace_cons reached, Json.replace_cons listed]
          exact problem?_ofDocument_insertMember ascending accepted below
      | _ => cases listed
  | _ => cases reached

/-- An object within an entry is refused with a member that is none of its fields. -/
theorem ofDocument_refusesUnknown {α β : Type} {decode : Setting → Decoded α}
    {inner : Setting → Decoded β} {store : Config → Dict α → Config} {fields : List String}
    (ruled : configRules.find? (·.name == field) = some (.of field (decodeDict decode) store))
    (blank : standardSettings.lookup field = some (.table [])) {path : List Json.Step}
    (reads : Reads decode path inner) (refuses : RefusesUnknown inner fields) {document : Json}
    (ordered : document.IsOrdered) (accepted : problem? (ofDocument document) = none)
    (found : document.at? (.member field :: .member name :: path) = some (.object members))
    {added : String} (unknown : added ∉ fields) (value : Json) :
    problem? (ofDocument (document.replace (.member field :: .member name :: path)
      (.object (Json.insertMember added value members)))) =
        some ⟨.unknownField,
          (.member field :: .member name :: path : List Json.Step).map Json.Step.text ++
            [added]⟩ := by
  obtain ⟨own, replaced⟩ := ofDocument_reads ruled blank reads ordered accepted found
  apply replaced _ ⟨.unknownField, [added]⟩
  rw [ofJson, ofMembers_insertMember]
  exact refuses unknown own (.ofJson value)

end Document

end Setting

namespace Config

open Setting

/-- No misspelt key is passed over. Wherever a document that is accepted has an object with fixed
fields, one more member whose name is none of the fields, with whatever value, has the document
refused for the unknown field. The path of the problem is that of the member; its key joins the names
and positions of the path with points. Every document read from a text is ordered
(`Json.isOrdered_of_parse?`). -/
theorem ofDocument_unknownField {document : Json} {config : Config} (ordered : document.IsOrdered)
    (accepted : ofDocument document = .ok config) {kind : RecordKind} {path : List Json.Step}
    (place : RecordPath kind path) {members : List (String × Json)}
    (found : document.at? path = some (.object members)) {name : String}
    (unknown : name ∉ kind.fields) (value : Json) :
    ofDocument (document.replace path (.object (Json.insertMember name value members))) =
      .error ⟨.unknownField, path.map Json.Step.text ++ [name]⟩ := by
  have sound : problem? (ofDocument document) = none := by
    rw [accepted]
    rfl
  rw [← problem?_eq_some_iff]
  cases place with
  | config =>
      obtain rfl := Option.some.inj found
      cases ordered with
      | object ascending each =>
          exact problem?_ofDocument_insertMember ascending sound
            (problem?_readField_unknown unknown .standard _)
  | collection collection =>
      exact ofDocument_refusesUnknown rfl rfl (.refl decodeCollection)
        (refusesUnknown_decodeRecord isUniformRule_collectionRules .blank) ordered sound found unknown
        value
  | @action collection table actions verb position =>
      have reads : Reads decodeCollection [table, .member verb, .element position] decodeAction :=
        (reads_decodeCollection actions).trans
          ((reads_decodeByVerb (decodeList decodeAction) verb).trans
            (reads_decodeList decodeAction position))
      exact ofDocument_refusesUnknown rfl rfl reads refusesUnknown_decodeAction ordered sound found
        unknown value
  | type type =>
      exact ofDocument_refusesUnknown rfl rfl (.refl decodeType)
        (refusesUnknown_decodeRecord isUniformRule_typeRules .blank) ordered sound found unknown
        value

/-- Machines that anyone may start. -/
def starting : Json :=
  .object [("collections", .object [("machines", .object [("resource_actions",
    .object [("post", .array [.object [("name", .string "start")]])])])])]

/-- Where a document says who may start machines, and the key for it is misspelt. -/
theorem ofDocument_unknownField_starting :
    starting.IsOrdered ∧ (∃ config, ofDocument starting = .ok config) ∧
    ∃ problem,
      ofDocument (starting.replace [.member "collections", .member "machines",
        .member "resource_actions", .member "post", .element 0]
          (.object [("identifer", .string "machine_admin"), ("name", .string "start")])) =
        .error problem ∧
      problem.kind = .unknownField ∧
      problem.key = "collections.machines.resource_actions.post.0.identifer" := by
  have action : (Json.array [.object [("name", .string "start")]]).IsOrdered :=
    .array (by simpa using Json.isOrdered_singleton (.string "start"))
  have ordered : starting.IsOrdered :=
    Json.isOrdered_singleton (Json.isOrdered_singleton (Json.isOrdered_singleton
      (Json.isOrdered_singleton action)))
  have accepted : (ofDocument starting).toOption.isSome = true := by
    decide +kernel
  obtain ⟨config, accepted⟩ := Stage.exists_ok_of_isSome accepted
  have refused := ofDocument_unknownField ordered accepted
    (.action "machines" (by decide : .member "resource_actions" ∈ actionSteps) "post" 0) rfl
    (by decide : "identifer" ∉ RecordKind.fields .action) (.string "machine_admin")
  exact ⟨ordered, ⟨config, accepted⟩, _, refused, rfl, by decide +kernel⟩

end Config

end ResourceRouter
