import ResourceRouter.Address.Basic
import ResourceRouter.Filter.Compile

set_option autoImplicit false

/-!
The configuration of the interface: its root, its collections with their actions, and its types.
-/

namespace ResourceRouter

/-- One value for each verb that has one. -/
structure ByVerb (α : Type) where
  get : Option α
  put : Option α
  patch : Option α
  post : Option α
  delete : Option α
  options : Option α
deriving DecidableEq, Repr

namespace ByVerb

variable {α : Type}

def empty : ByVerb α := ⟨none, none, none, none, none, none⟩

/-- The value of a verb. -/
def find? (table : ByVerb α) : Verb → Option α
  | .get => table.get
  | .put => table.put
  | .patch => table.patch
  | .post => table.post
  | .delete => table.delete
  | .options => table.options

/-- The table with the value of one verb set. -/
def set (table : ByVerb α) (verb : Verb) (value : α) : ByVerb α :=
  match verb with
  | .get => { table with get := some value }
  | .put => { table with put := some value }
  | .patch => { table with patch := some value }
  | .post => { table with post := some value }
  | .delete => { table with delete := some value }
  | .options => { table with options := some value }

/-- The verbs that have a value, in their fixed order, with their values. -/
def toList (table : ByVerb α) : List (Verb × α) :=
  Verb.all.filterMap fun verb => (table.find? verb).map fun value => (verb, value)

/-- Every value transformed. -/
def map {β : Type} (transform : α → β) (table : ByVerb α) : ByVerb β :=
  ⟨table.get.map transform, table.put.map transform, table.patch.map transform,
    table.post.map transform, table.delete.map transform, table.options.map transform⟩

theorem find?_map {β : Type} (transform : α → β) (table : ByVerb α) (verb : Verb) :
    (table.map transform).find? verb = (table.find? verb).map transform := by
  cases verb <;> rfl

theorem find?_set (table : ByVerb α) (verb other : Verb) (value : α) :
    (table.set verb value).find? other =
      if other = verb then some value else table.find? other := by
  cases verb <;> cases other <;> rfl

end ByVerb

/-- One value for each kind of target. -/
structure ByTarget (α : Type) where
  collection : α
  resource : α
  subcollection : α
  subresource : α
deriving DecidableEq, Repr

/-- The value of a kind of target. -/
def ByTarget.at {α : Type} (table : ByTarget α) : Target → α
  | .collection => table.collection
  | .resource => table.resource
  | .subcollection => table.subcollection
  | .subresource => table.subresource

/-- Every value transformed. -/
def ByTarget.map {α β : Type} (transform : α → β) (table : ByTarget α) : ByTarget β :=
  ⟨transform table.collection, transform table.resource, transform table.subcollection,
    transform table.subresource⟩

theorem ByTarget.at_map {α β : Type} (transform : α → β) (table : ByTarget α) (target : Target) :
    (table.map transform).at target = transform (table.at target) := by
  cases target <;> rfl

/-- How a collection may be used. -/
inductive CollectionOption where
  /-- It may be the primary collection of a request. -/
  | collection
  /-- It may be the subcollection of another collection. -/
  | subcollection
  /-- Actions without a handler of their own go to a generic one. -/
  | customActions
deriving DecidableEq, Repr

namespace CollectionOption

def all : List CollectionOption := [.collection, .subcollection, .customActions]

def name : CollectionOption → String
  | .collection => "collection"
  | .subcollection => "subcollection"
  | .customActions => "custom_actions"

def ofName? (name : String) : Option CollectionOption := all.find? (·.name == name)

end CollectionOption

/-- One permission identifier, or a list of them. -/
inductive Identifiers where
  | one (identifier : String)
  | many (identifiers : List String)
deriving DecidableEq, Repr

def Identifiers.toList : Identifiers → List String
  | .one identifier => [identifier]
  | .many identifiers => identifiers

/-- An action as configured. -/
structure ActionConfig where
  name : String
  /-- The permissions of which any one is enough. -/
  identifier : Option Identifiers
  disabled : Bool
  /-- The validation that runs before the handler. -/
  hook : Option String
deriving DecidableEq, Repr

/-- The permissions of which any one is enough; without any, the action is open to everyone. -/
def ActionConfig.identifiers (action : ActionConfig) : List String :=
  (action.identifier.map Identifiers.toList).getD []

/-- A collection as configured. -/
structure CollectionConfig where
  description : String
  /-- The type of its records; filters and attribute selections need one. -/
  typeName : Option String
  verbs : List Verb
  options : List CollectionOption
  /-- The attributes that identify a record without an id, in order of preference. -/
  identifyingAttributes : List String
  subcollections : List String
  /-- The handlers that exist; without a list, every conventional one does. -/
  handlers : Option (List String)
  actions : ByTarget (ByVerb (List ActionConfig))
deriving DecidableEq, Repr

/-- The collection of an empty table. -/
def CollectionConfig.blank : CollectionConfig :=
  ⟨"", none, [], [], [], [], none, ⟨.empty, .empty, .empty, .empty⟩⟩

structure Config where
  /-- The root path of the interface, in any spelling. -/
  root : String
  grouping : Grouping
  /-- The versions that requests may ask for; an empty list allows every version. -/
  supportedVersions : List String
  collections : Dict CollectionConfig
  types : Dict TypeSchema
deriving DecidableEq, Repr

/-- The configuration of an empty document. -/
def Config.standard : Config := ⟨"/api", .alternativesLast, [], .empty, .empty⟩

namespace Grouping

def all : List Grouping := [.alternativesLast, .alternativesFirst]

/-- The name of a grouping in configurations: what binds tighter comes first. -/
def name : Grouping → String
  | .alternativesLast => "or_priority"
  | .alternativesFirst => "and_priority"

def ofName? (name : String) : Option Grouping := all.find? (·.name == name)

end Grouping

end ResourceRouter
