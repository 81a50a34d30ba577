import ResourceRouter.Fault
import ResourceRouter.Text.Blank

set_option autoImplicit false

/-!
One filter clause as text: an optional marker for an alternative, an attribute path, an operator and
a value.
-/

namespace ResourceRouter

/-- An attribute, at most one association away. -/
structure AttributePath where
  association : Option String
  name : String
deriving DecidableEq, Repr

/-- Reads a path: one or two parts around a point, none of them blank. -/
def AttributePath.parse (path : List Char) : Except FilterFault AttributePath :=
  let parts := (path.splitOn '.').map Text.trim
  if parts.length > 2 then .error (.tooManyHops (String.ofList path))
  else if parts.any List.isEmpty then .error (.missingAttribute (String.ofList path))
  else
    match parts with
    | [association, name] => .ok ⟨some (String.ofList association), String.ofList name⟩
    | _ => .ok ⟨none, String.ofList parts.flatten⟩

/-- A clause before its value is interpreted. -/
structure Clause where
  path : AttributePath
  operator : Operator
  /-- The text after the operator without blanks around it; quotes belong to it. -/
  value : List Char
  /-- The clause is an alternative to what comes before it. -/
  alternative : Bool
deriving DecidableEq, Repr

namespace Clause

/-- Removes the marker of an alternative, in any case of its letters, with the blanks after it. -/
def dropMarker (text : List Char) : Bool × List Char :=
  match text with
  | o :: r :: ' ' :: rest =>
    if o.toLower = 'o' && r.toLower = 'r' then (true, Text.trimStart rest) else (false, text)
  | _ => (false, text)

/-- Reads a clause. -/
def parse (text : String) : Except FilterFault Clause :=
  let (alternative, body) := dropMarker (Text.trim text.toList)
  if body.isEmpty then .error .emptyClause
  else
    match Operator.split? body with
    | none => .error (.noOperator (String.ofList body))
    | some split =>
      (AttributePath.parse (Text.trim split.before)).map fun path =>
        ⟨path, split.operator, Text.trim split.after, alternative⟩

end Clause

end ResourceRouter
