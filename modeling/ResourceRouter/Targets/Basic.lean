import ResourceRouter.Fault

set_option autoImplicit false

/-!
The records that a request acts upon: the one of its address, or those that the elements of its body
name. Every element has an outcome of its own, and the targets are collected from the outcomes.
-/

namespace ResourceRouter

/-- What becomes of one element of a bulk request. -/
inductive Outcome where
  /-- The element describes a new record. -/
  | created
  /-- The element names a record. -/
  | target (id : String)
  /-- The element is left out. -/
  | failed (fault : Fault)

namespace Outcome

def id? : Outcome → Option String
  | .target id => some id
  | _ => none

def fault? : Outcome → Option Fault
  | .failed fault => some fault
  | _ => none

def isCreated : Outcome → Bool
  | .created => true
  | _ => false

end Outcome

/-- An element left out, with its position. -/
structure Failure where
  index : Nat
  fault : Fault

/-- The records that a request acts upon. -/
structure Targets where
  isBulk : Bool
  /-- The ids of existing records, in the order of the request. -/
  ids : List String
  failures : List Failure
  /-- The number of new records. -/
  created : Nat

namespace Targets

/-- At most one record, that of an address. -/
def single (id : Option String) : Targets := ⟨false, id.toList, [], 0⟩

/-- The failures among outcomes that start at a position. -/
def failuresFrom (index : Nat) (outcomes : List Outcome) : List Failure :=
  (outcomes.zipIdx index).filterMap fun entry =>
    entry.1.fault?.map fun fault => ⟨entry.2, fault⟩

/-- The targets of a bulk request whose elements have the given outcomes. -/
def ofOutcomes (outcomes : List Outcome) : Targets where
  isBulk := true
  ids := outcomes.filterMap Outcome.id?
  failures := failuresFrom 0 outcomes
  created := outcomes.countP Outcome.isCreated

end Targets

end ResourceRouter
