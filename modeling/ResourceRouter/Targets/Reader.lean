import ResourceRouter.Address.Locator
import ResourceRouter.Targets.Basic

set_option autoImplicit false

/-!
Reading the targets of a request from its address and its body. A body with an array of resources
is a bulk request, unless records are deleted; an element names its record by an href, by an id or
by an identifying attribute, in this order.
-/

namespace ResourceRouter

/-- Finds the id of a record by the value of one of its attributes: collection, name of the
attribute, value. -/
structure Identity where
  find? : String → String → Json → Option String

/-- Finds nothing. -/
def Identity.nothing : Identity := ⟨fun _ _ _ => none⟩

/-- The members of an object in a body. -/
abbrev Members := List (String × Json)

namespace Members

/-- A member that is present and not null. -/
def given? (name : String) (members : Members) : Option Json :=
  (Json.lookup name members).bind fun
    | .null => none
    | value => some value

/-- The element names a record by id or href, as no new record may. -/
def namesRecord (members : Members) : Bool :=
  (given? "id" members).isSome || (given? "href" members).isSome

end Members

/-- Reads targets with a locator for hrefs and tokens and a way to find records. -/
structure TargetReader where
  locator : Locator
  identity : Identity

namespace TargetReader

/-- The id in an href to a member of the collection that the request is about. An href through a
subcollection has to go through the same record. -/
def hrefId? (reader : TargetReader) (address : Address) (href : String) : Option String :=
  let parsed := reader.locator.parse href
  if parsed.targetCollection ≠ address.targetCollection then none
  else if address.subcollection.isSome && parsed.subcollection.isSome &&
      parsed.collectionId != address.collectionId then none
  else parsed.targetId.filter RecordId.isNumeric

/-- The id that a value spells: a natural number, or a text that is a plain or encoded id. -/
def spelledId (reader : TargetReader) : Json → String
  | .number (.integer (.ofNat n)) => String.ofList (Nat.toDigits 10 n)
  | .string text => reader.locator.decoder.canonical (Text.trimmed text)
  | _ => ""

/-- The id that a value spells, if it is one. -/
def explicitId (reader : TargetReader) (value : Json) : Except Fault String :=
  let id := reader.spelledId value
  if RecordId.isNumeric id then .ok id else .error (.invalidId value)

/-- The id of the record with the first identifying attribute that is given. -/
def attributeId (reader : TargetReader) (collection : String) (members : Members)
    (identifying : List String) : Except Fault String :=
  let given := identifying.findSome? fun name =>
    (members.given? name).map fun value => (name, value)
  match given with
  | none => .error (.unidentifiedElement collection)
  | some (name, value) =>
    match reader.identity.find? collection name value with
    | some id => .ok id
    | none => .error (.recordNotFound collection name value)

/-- The id of the record that an element names. -/
def elementId (reader : TargetReader) (address : Address) (identifying : List String)
    (members : Members) : Except Fault String :=
  let href := (Json.lookup "href" members).bind Json.string?
  match href.bind (reader.hrefId? address), Json.lookup "id" members with
  | some id, _ => .ok id
  | none, some value => reader.explicitId value
  | none, none => reader.attributeId (address.targetCollection.getD "") members identifying

/-- The fault of naming a record while making a new one. -/
def creationFault (address : Address) : Fault :=
  .identifiedCreation (address.targetCollection.getD "resource")

/-- The outcome of the element at a position. -/
def outcome (reader : TargetReader) (address : Address) (action : String)
    (identifying : List String) (index : Nat) : Json → Outcome
  | .object members =>
    if isCreation action then
      if Members.namesRecord members then .failed (creationFault address) else .created
    else
      match reader.elementId address identifying members with
      | .ok id => .target id
      | .error fault => .failed fault
  | _ => .failed (.elementNotObject index)

/-- The outcomes of elements that start at a position. -/
def outcomesFrom (reader : TargetReader) (address : Address) (action : String)
    (identifying : List String) (index : Nat) (elements : List Json) : List Outcome :=
  (elements.zipIdx index).map fun entry =>
    reader.outcome address action identifying entry.2 entry.1

/-- The resources of a body, unless records are deleted. -/
def resources? (verb : Verb) (body : Option Json) : Option Json :=
  if verb = .delete then none else body.bind (Json.member? "resources")

/-- The targets of a request without resources. -/
def readSingle (address : Address) (action : String) (body : Option Json) :
    Except Fault Targets :=
  match body with
  | some (.object members) =>
    if isCreation action && Members.namesRecord members then .error (creationFault address)
    else .ok (.single address.targetId)
  | _ => .ok (.single address.targetId)

/-- The targets of a request. -/
def read (reader : TargetReader) (verb : Verb) (address : Address) (action : String)
    (identifying : List String) (body : Option Json) : Except Fault Targets :=
  match resources? verb body with
  | none => readSingle address action body
  | some (.array elements) =>
    .ok (.ofOutcomes (reader.outcomesFrom address action identifying 0 elements))
  | some _ => .error .resourcesNotArray

end TargetReader

end ResourceRouter
