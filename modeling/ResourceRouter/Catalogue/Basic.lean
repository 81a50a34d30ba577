import ResourceRouter.Config.Basic

set_option autoImplicit false

/-!
The catalogue: the collections of the interface with the actions that each declares, as requests
meet them.
-/

namespace ResourceRouter

/-- A declared action. -/
structure ActionSpec where
  name : String
  /-- The permissions of which any one is enough; without any, the action is open to everyone. -/
  identifiers : List String
  disabled : Bool
  /-- The validation that runs before the handler. -/
  hook : Option String
deriving DecidableEq, Repr

/-- Whether an action may be used, and by which permission. -/
inductive Access where
  | unrestricted
  | granted (identifier : String)
  | denied
deriving DecidableEq, Repr

/-- The access to an action when some permissions are granted; the first of its identifiers that is
among them counts. -/
def ActionSpec.access (spec : ActionSpec) (allows : String → Bool) : Access :=
  if spec.identifiers.isEmpty then .unrestricted
  else
    match spec.identifiers.find? allows with
    | some identifier => .granted identifier
    | none => .denied

/-- The actions under each verb, in their declared order. -/
abbrev ActionTable := ByVerb (List ActionSpec)

namespace ActionTable

/-- The action of a name under a verb. -/
def action? (table : ActionTable) (verb : Verb) (name : String) : Option ActionSpec :=
  (table.find? verb).bind fun specs => specs.find? (·.name == name)

/-- Every action with its verb. -/
def declared (table : ActionTable) : List (Verb × ActionSpec) :=
  table.toList.flatMap fun entry => entry.2.map fun spec => (entry.1, spec)

end ActionTable

/-- A collection of the interface. -/
structure Collection where
  name : String
  description : String
  typeName : Option String
  verbs : List Verb
  options : List CollectionOption
  identifyingAttributes : List String
  subcollections : List String
  handlers : Option (List String)
  actions : ByTarget ActionTable
deriving DecidableEq, Repr

namespace Collection

def supportsVerb (collection : Collection) (verb : Verb) : Bool := collection.verbs.contains verb

/-- The verbs of a collection in their fixed order, each once. -/
def supportedVerbs (collection : Collection) : List Verb :=
  Verb.all.filter collection.supportsVerb

def hasOption (collection : Collection) (option : CollectionOption) : Bool :=
  collection.options.contains option

def hasSubcollection (collection : Collection) (name : String) : Bool :=
  collection.subcollections.contains name

/-- The collection is only reached through another one. -/
def isSubcollectionOnly (collection : Collection) : Bool :=
  collection.hasOption .subcollection && !collection.hasOption .collection

/-- The handler exists: it is listed, or there is no list. -/
def implements (collection : Collection) (handler : String) : Bool :=
  collection.handlers.all (·.contains handler)

end Collection

/-- The collections of the interface under their names, and the versions that requests may ask
for. -/
structure Catalogue where
  collections : Dict Collection
  supportedVersions : List String
deriving DecidableEq, Repr

namespace Catalogue

def empty : Catalogue := ⟨.empty, []⟩

def find? (catalogue : Catalogue) (name : String) : Option Collection :=
  catalogue.collections.find? name

/-- Requests may ask for a version that is listed; an empty list allows every version. -/
def supportsVersion (catalogue : Catalogue) (version : String) : Bool :=
  catalogue.supportedVersions.isEmpty || catalogue.supportedVersions.contains version

end Catalogue

end ResourceRouter
