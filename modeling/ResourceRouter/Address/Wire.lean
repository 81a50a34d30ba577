import ResourceRouter.Address.Basic
import ResourceRouter.Json.Basic

set_option autoImplicit false

/-!
The wire forms of addresses and shapes.
-/

namespace ResourceRouter

/-- The wire form of an address, with a member for every part. -/
def Address.wire (address : Address) : Json :=
  .ofMembers [("collection", .ofOption address.collection),
    ("collection_id", .ofOption address.collectionId),
    ("subcollection", .ofOption address.subcollection),
    ("subcollection_id", .ofOption address.subcollectionId), ("version", .ofOption address.version)]

/-- The wire form of a shape. -/
def Shape.wire (shape : Shape) : Json :=
  .ofMembers [("subject", .string shape.subject.name), ("target", .string shape.target.name)]

end ResourceRouter
