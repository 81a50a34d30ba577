import ResourceRouter.Text.Blank

set_option autoImplicit false

/-!
Addresses of collections and records, the shape of what they name, and their canonical hrefs.
-/

namespace ResourceRouter

/-- Whether the primary side of an address is a collection or one of its members. -/
inductive Subject where
  | collection
  | resource
deriving DecidableEq, Repr

/-- What a request acts upon. -/
inductive Target where
  | collection
  | resource
  | subcollection
  | subresource
deriving DecidableEq, Repr

/-- The kind of an address, which selects the actions that apply. -/
structure Shape where
  subject : Subject
  target : Target
deriving DecidableEq, Repr

/-- Coordinates of what a request names. Any part may be missing: whether the parts make sense
together is decided where the address is used. -/
structure Address where
  collection : Option String
  collectionId : Option String
  subcollection : Option String
  subcollectionId : Option String
  version : Option String
deriving DecidableEq, Repr

def Subject.name : Subject → String
  | .collection => "collection"
  | .resource => "resource"

namespace Target

/-- The kinds of target in their fixed order. -/
def all : List Target := [.collection, .resource, .subcollection, .subresource]

def name : Target → String
  | .collection => "collection"
  | .resource => "resource"
  | .subcollection => "subcollection"
  | .subresource => "subresource"

def ofName? (name : String) : Option Target := all.find? (·.name == name)

end Target

namespace Shape

def collection : Shape := ⟨.collection, .collection⟩

def resource : Shape := ⟨.resource, .resource⟩

def subcollection : Shape := ⟨.resource, .subcollection⟩

def subresource : Shape := ⟨.resource, .subresource⟩

def isSubcollection (shape : Shape) : Bool :=
  shape.target == .subcollection || shape.target == .subresource

/-- The target is a set of records rather than one record. -/
def targetsMany (shape : Shape) : Bool :=
  shape.target == .collection || shape.target == .subcollection

def text (shape : Shape) : String := "(" ++ shape.subject.name ++ ", " ++ shape.target.name ++ ")"

end Shape

namespace Address

/-- The address that names nothing: the entrypoint of the interface. -/
def entrypoint : Address := ⟨none, none, none, none, none⟩

def ofCollection (name : String) : Address := { entrypoint with collection := some name }

def ofResource (name id : String) : Address :=
  { entrypoint with collection := some name, collectionId := some id }

/-- Narrows an address to a subcollection, or to one of its members. -/
def withSubcollection (address : Address) (name : String) (id : Option String) : Address :=
  { address with subcollection := some name, subcollectionId := id }

def withVersion (address : Address) (version : String) : Address :=
  { address with version := some version }

/-- Without a collection, the address is the entrypoint, whatever else it holds. -/
def isEntrypoint (address : Address) : Bool := address.collection.isNone

/-- The collection whose records the request is about. -/
def targetCollection (address : Address) : Option String :=
  address.subcollection.or address.collection

/-- The single record named, if one is. -/
def targetId (address : Address) : Option String :=
  if address.subcollection.isSome then address.subcollectionId else address.collectionId

/-- The shape follows from which parts are present. -/
def shape (address : Address) : Shape where
  subject := if address.collectionId.isSome then .resource else .collection
  target :=
    match address.subcollection, address.subcollectionId with
    | some _, some _ => .subresource
    | some _, none => .subcollection
    | none, _ => if address.collectionId.isSome then .resource else .collection

/-- The parts present, in the order of a path. -/
def segments (address : Address) : List String :=
  [address.version, address.collection, address.collectionId, address.subcollection,
    address.subcollectionId].filterMap id

/-- The canonical href under a root: each part present follows a slash. -/
def href (address : Address) (root : String) : String :=
  String.ofList (Text.dropTrailing (· == '/') root.toList ++
    address.segments.flatMap fun segment => '/' :: segment.toList)

end Address

end ResourceRouter
