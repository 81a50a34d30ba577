import ResourceRouter.Address.Wire
import ResourceRouter.Dispatch.Decision
import ResourceRouter.Filter.Expression
import ResourceRouter.Targets.Basic

set_option autoImplicit false

/-!
Operations: what a handler is told about a request, and the wire form of that. Parts that say
nothing are left out of the wire form.
-/

namespace ResourceRouter

/-- A request that is ready for its handler. -/
structure Operation where
  decision : Decision
  targets : Targets
  filter : Option Expression
  /-- The attributes that the answer is limited to; an empty list asks for all. -/
  selection : List String

/-- The wire form of a fault. -/
def Fault.wire (fault : Fault) : Json :=
  .ofMembers [("kind", .string fault.kind.name), ("message", .string fault.message)]

/-- The wire form of a failure. -/
def Failure.wire (failure : Failure) : Json :=
  .ofMembers [("index", .ofNat failure.index), ("error", failure.fault.wire)]

namespace Operation

/-- The operation of a decision without a body: it acts upon the record of its address. The
entrypoint has no records, whatever else an address without a collection holds. -/
def ofDecision (decision : Decision) (address : Address) : Operation :=
  ⟨decision, .single (decision.collection.bind fun _ => address.targetId), none, []⟩

/-- The members that are always written. -/
def constantMembers (operation : Operation) : List (String × Json) :=
  let decision := operation.decision
  [("handler_name", .string decision.handler), ("action_name", .string decision.action),
    ("collection", .ofOption decision.collection), ("shape", decision.shape.wire),
    ("is_bulk", .bool operation.targets.isBulk), ("target_ids", .ofStrings operation.targets.ids),
    ("permission_identifier", .ofOption decision.permission)]

/-- The members that are written when they say something. -/
def optionalMembers (operation : Operation) : List (Option (String × Json)) :=
  let targets := operation.targets
  [if targets.failures.isEmpty then none
    else some ("failures", .array (targets.failures.map Failure.wire)),
    if targets.created = 0 then none else some ("new_resources", .ofNat targets.created),
    operation.decision.hook.map fun hook => ("validation_hook", .string hook),
    operation.filter.map fun filter => ("filter", filter.wire),
    if operation.selection.isEmpty then none
    else some ("attributes", .ofStrings operation.selection)]

/-- The wire form of an operation. -/
def wire (operation : Operation) : Json :=
  .ofMembers (operation.constantMembers ++ operation.optionalMembers.filterMap id)

end Operation

end ResourceRouter
