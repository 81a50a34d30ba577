import ResourceRouter.Config.Basic
import ResourceRouter.Config.Setting

set_option autoImplicit false

/-!
Settings read as a configuration. Members are visited in order, and the first problem met is the one
reported, with the path that leads to it.
-/

namespace ResourceRouter

inductive ProblemKind where
  | unknownField
  | missingField
  | invalidType
  | invalidLength
  | unknownVariant
  | message
deriving DecidableEq, Repr

def ProblemKind.name : ProblemKind → String
  | .unknownField => "UnknownField"
  | .missingField => "MissingField"
  | .invalidType => "InvalidType"
  | .invalidLength => "InvalidLength"
  | .unknownVariant => "UnknownVariant"
  | .message => "Message"

/-- What is wrong with a setting, and where it stands: names of members and positions in lists. -/
structure Problem where
  kind : ProblemKind
  path : List String
deriving DecidableEq, Repr

/-- The path of a problem as one text. -/
def Problem.key (problem : Problem) : String := ".".intercalate problem.path

namespace Setting

abbrev Decoded (α : Type) := Except Problem α

variable {α σ : Type}

/-- A problem at this place. -/
def fail (kind : ProblemKind) : Decoded α := .error ⟨kind, []⟩

/-- A problem below this place is reported with the step that leads to it. -/
def within (step : String) : Decoded α → Decoded α
  | .ok value => .ok value
  | .error problem => .error { problem with path := step :: problem.path }

def decodeText : Setting → Decoded String
  | .text value => .ok value
  | .character value => .ok (String.singleton value)
  | _ => fail .invalidType

def decodeFlag : Setting → Decoded Bool
  | .flag value => .ok value
  | _ => fail .invalidType

/-- A setting that may be null. -/
def decodeOption (decode : Setting → Decoded α) : Setting → Decoded (Option α)
  | .null => .ok none
  | setting => (decode setting).map some

/-- One of a fixed set of words. A table names a word by its first member, which then holds null. -/
def decodeWord (ofName? : String → Option α) : Setting → Decoded α
  | .text word =>
    match ofName? word with
    | some value => .ok value
    | none => fail .unknownVariant
  | .table ((word, held) :: _) =>
    within word <|
      match ofName? word, held with
      | some value, .null => .ok value
      | some _, _ => fail .invalidType
      | none, _ => fail .unknownVariant
  | _ => fail .invalidType

/-- The items of a list from a position on. -/
def decodeItems (decode : Setting → Decoded α) : Nat → List Setting → Decoded (List α)
  | _, [] => .ok []
  | position, item :: rest => do
    let value ← within (toString position) (decode item)
    let values ← decodeItems decode (position + 1) rest
    return value :: values

def decodeList (decode : Setting → Decoded α) : Setting → Decoded (List α)
  | .list items => decodeItems decode 0 items
  | _ => fail .invalidType

/-- The members of a table, each added to what those before it gave. -/
def decodeMembers (add : σ → String → Setting → Decoded σ) : σ → List (String × Setting) → Decoded σ
  | state, [] => .ok state
  | state, (name, value) :: rest =>
    match within name (add state name value) with
    | .ok state => decodeMembers add state rest
    | .error problem => .error problem

def decodeDict (decode : Setting → Decoded α) : Setting → Decoded (Dict α)
  | .table members =>
    decodeMembers (fun dict name value => (decode value).map (dict.insert name)) .empty members
  | _ => fail .invalidType

/-- A table whose names are verbs. -/
def decodeByVerb (decode : Setting → Decoded α) : Setting → Decoded (ByVerb α)
  | .table members =>
    decodeMembers (fun table name value =>
      match Verb.ofName? name with
      | some verb => (decode value).map (table.set verb)
      | none => fail .unknownVariant) .empty members
  | _ => fail .invalidType

/-- A field of a record: its name, and how its setting changes the record. -/
structure FieldRule (σ : Type) where
  name : String
  read : σ → Setting → Decoded σ

/-- A rule for a field that a decoder gives the value of. -/
def FieldRule.of (name : String) (decode : Setting → Decoded α) (store : σ → α → σ) : FieldRule σ :=
  ⟨name, fun state setting => (decode setting).map (store state)⟩

/-- The fields of a record in their order, from a list of settings. -/
def decodePositions : Nat → σ → List (FieldRule σ) → List Setting → Decoded σ
  | position, state, rule :: rules, item :: items =>
    match within (toString position) (rule.read state item) with
    | .ok state => decodePositions (position + 1) state rules items
    | .error problem => .error problem
  | _, state, _, _ => .ok state

/-- A record with the given fields and no others. It is written as a table, or as a list of its
fields in order; fields left out keep their first value. -/
def decodeRecord (rules : List (FieldRule σ)) (start : σ) : Setting → Decoded σ
  | .table members =>
    decodeMembers (fun state name value =>
      match rules.find? (·.name == name) with
      | some rule => rule.read state value
      | none => fail .unknownField) start members
  | .list items => decodePositions 0 start rules items
  | _ => fail .invalidType

/-- A text or a list of texts. -/
def decodeIdentifiers : Setting → Decoded Identifiers
  | .text identifier => .ok (.one identifier)
  | .list items =>
    match items.mapM fun
      | .text identifier => some identifier
      | _ => none
    with
    | some identifiers => .ok (.many identifiers)
    | none => fail .message
  | _ => fail .message

/-- An action while its fields are read; the name has no first value. -/
structure ActionDraft where
  name : Option String
  rest : ActionConfig

def actionRules : List (FieldRule ActionDraft) :=
  [.of "name" decodeText fun draft value => { draft with name := some value },
    .of "identifier" (decodeOption decodeIdentifiers) fun draft value =>
      { draft with rest := { draft.rest with identifier := value } },
    .of "disabled" decodeFlag fun draft value =>
      { draft with rest := { draft.rest with disabled := value } },
    .of "validate" (decodeOption decodeText) fun draft value =>
      { draft with rest := { draft.rest with hook := value } }]

def decodeAction (setting : Setting) : Decoded ActionConfig := do
  let draft ← decodeRecord actionRules ⟨none, ⟨"", none, false, none⟩⟩ setting
  match draft.name, setting with
  | some name, _ => return { draft.rest with name := name }
  | none, .list _ => fail .invalidLength
  | none, _ => fail .missingField

def decodeActions : Setting → Decoded (ByVerb (List ActionConfig)) :=
  decodeByVerb (decodeList decodeAction)

def collectionRules : List (FieldRule CollectionConfig) :=
  [.of "description" decodeText fun draft value => { draft with description := value },
    .of "klass" (decodeOption decodeText) fun draft value => { draft with typeName := value },
    .of "verbs" (decodeList (decodeWord Verb.ofName?)) fun draft value =>
      { draft with verbs := value },
    .of "options" (decodeList (decodeWord CollectionOption.ofName?)) fun draft value =>
      { draft with options := value },
    .of "identifying_attrs" (decodeList decodeText) fun draft value =>
      { draft with identifyingAttributes := value },
    .of "subcollections" (decodeList decodeText) fun draft value =>
      { draft with subcollections := value },
    .of "handlers" (decodeOption (decodeList decodeText)) fun draft value =>
      { draft with handlers := value },
    .of "collection_actions" decodeActions fun draft value =>
      { draft with actions := { draft.actions with collection := value } },
    .of "resource_actions" decodeActions fun draft value =>
      { draft with actions := { draft.actions with resource := value } },
    .of "subcollection_actions" decodeActions fun draft value =>
      { draft with actions := { draft.actions with subcollection := value } },
    .of "subresource_actions" decodeActions fun draft value =>
      { draft with actions := { draft.actions with subresource := value } }]

def decodeCollection : Setting → Decoded CollectionConfig := decodeRecord collectionRules .blank

def typeRules : List (FieldRule TypeSchema) :=
  [.of "attributes" (decodeDict (decodeWord AttributeType.ofName?)) fun draft value =>
      { draft with attributes := value },
    .of "virtual_attributes" (decodeDict (decodeWord AttributeType.ofName?)) fun draft value =>
      { draft with virtualAttributes := value },
    .of "associations" (decodeDict decodeText) fun draft value =>
      { draft with associations := value }]

def decodeType : Setting → Decoded TypeSchema := decodeRecord typeRules .blank

def configRules : List (FieldRule Config) :=
  [.of "api_prefix" decodeText fun draft value => { draft with root := value },
    .of "filter_priority" (decodeWord Grouping.ofName?) fun draft value =>
      { draft with grouping := value },
    .of "supported_versions" (decodeList decodeText) fun draft value =>
      { draft with supportedVersions := value },
    .of "collections" (decodeDict decodeCollection) fun draft value =>
      { draft with collections := value },
    .of "types" (decodeDict decodeType) fun draft value => { draft with types := value }]

def decodeConfig : Setting → Decoded Config := decodeRecord configRules .standard

end Setting

end ResourceRouter
