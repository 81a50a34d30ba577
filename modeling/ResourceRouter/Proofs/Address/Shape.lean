import ResourceRouter.Address.Basic

set_option autoImplicit false

/-!
The shape of an address against its parts. The target follows from the parts alone; subject and target
fit each other once a subcollection only stands below a record.
-/

namespace ResourceRouter.Address

/-- An address leads through a subcollection exactly when it names one. -/
theorem isSubcollection_shape (address : Address) :
    address.shape.isSubcollection = address.subcollection.isSome := by
  obtain ⟨collection, collectionId, subcollection, subcollectionId, version⟩ := address
  cases collectionId <;> cases subcollection <;> cases subcollectionId <;> rfl

/-- An address is about many records exactly when it names no single one. -/
theorem targetsMany_shape (address : Address) :
    address.shape.targetsMany = address.targetId.isNone := by
  obtain ⟨collection, collectionId, subcollection, subcollectionId, version⟩ := address
  cases collectionId <;> cases subcollection <;> cases subcollectionId <;> rfl

/-- Below a record, an address has one of the four shapes with a name. -/
theorem shape_mem {address : Address}
    (below : address.subcollection.isSome → address.collectionId.isSome) :
    address.shape ∈ [.collection, .resource, .subcollection, .subresource] := by
  obtain ⟨collection, collectionId, subcollection, subcollectionId, version⟩ := address
  dsimp only at below
  cases collectionId with
  | none =>
      obtain rfl : subcollection = none := by simpa using below
      exact List.mem_cons_self
  | some id =>
      cases subcollection with
      | none => simp [shape, Shape.resource]
      | some name => cases subcollectionId <;> simp [shape, Shape.subcollection, Shape.subresource]

end ResourceRouter.Address
