import ResourceRouter.Dict

set_option autoImplicit false

/-!
Type metadata: the attributes and associations of types, as filters and attribute selections need
to know them.
-/

namespace ResourceRouter

/-- The declared type of an attribute. -/
inductive AttributeType where
  | string
  | integer
  | datetime
  | date
  | boolean
  | stringSet
deriving DecidableEq, Repr

namespace AttributeType

def all : List AttributeType := [.string, .integer, .datetime, .date, .boolean, .stringSet]

def name : AttributeType → String
  | .string => "string"
  | .integer => "integer"
  | .datetime => "datetime"
  | .date => "date"
  | .boolean => "boolean"
  | .stringSet => "string_set"

def ofName? (name : String) : Option AttributeType := all.find? (·.name == name)

/-- Dates and moments, which only compare as earlier, later or the same. -/
def isTemporal (type : AttributeType) : Bool := type == .datetime || type == .date

end AttributeType

/-- What is known about types. The four questions are independent of each other. -/
structure Schema where
  /-- The type has a physical attribute of this name. -/
  hasAttribute : String → String → Bool
  /-- The type has a computed attribute of this name. -/
  isVirtual : String → String → Bool
  /-- The declared type of a physical or computed attribute. -/
  attributeType : String → String → Option AttributeType
  /-- The type that an association leads to. -/
  associatedType : String → String → Option String

/-- The type has a physical or computed attribute of this name. -/
def Schema.isRealAttribute (schema : Schema) (typeName name : String) : Bool :=
  schema.hasAttribute typeName name || schema.isVirtual typeName name

/-- The description of one type. -/
structure TypeSchema where
  attributes : Dict AttributeType
  virtualAttributes : Dict AttributeType
  associations : Dict String
deriving DecidableEq, Repr

/-- The type of an empty table. -/
def TypeSchema.blank : TypeSchema := ⟨.empty, .empty, .empty⟩

/-- The schema of a fixed set of type descriptions. A physical attribute hides a computed one of the
same name. -/
def Schema.ofTypes (types : Dict TypeSchema) : Schema where
  hasAttribute typeName name := (types.find? typeName).any (·.attributes.contains name)
  isVirtual typeName name := (types.find? typeName).any (·.virtualAttributes.contains name)
  attributeType typeName name :=
    (types.find? typeName).bind fun type =>
      (type.attributes.find? name).or (type.virtualAttributes.find? name)
  associatedType typeName association :=
    (types.find? typeName).bind (·.associations.find? association)

end ResourceRouter
