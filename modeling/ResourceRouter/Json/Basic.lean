set_option autoImplicit false

/-!
JSON values. An object is kept as the list of its members in ascending order of their names, so
that equal objects are equal lists.
-/

namespace ResourceRouter

/-- A number is an integer if it is written without fraction and exponent and fits 64 bits, signed
or unsigned; any other number is a binary64 value. -/
inductive Json.Number where
  | integer (value : Int)
  | float (value : Float)
deriving BEq, Repr, Inhabited

inductive Json where
  | null
  | bool (value : Bool)
  | number (value : Json.Number)
  | string (value : String)
  | array (elements : List Json)
  | object (members : List (String × Json))
deriving BEq, Repr, Inhabited

namespace Json

/-- Puts a member at its place in the order of names; a member of the same name is replaced. -/
def insertMember (name : String) (value : Json) : List (String × Json) → List (String × Json)
  | [] => [(name, value)]
  | (other, held) :: rest =>
    if name = other then (name, value) :: rest
    else if name < other then (name, value) :: (other, held) :: rest
    else (other, held) :: insertMember name value rest

/-- The value of a named member. -/
def lookup (name : String) : List (String × Json) → Option Json
  | [] => none
  | (other, value) :: rest => if name = other then some value else lookup name rest

/-- The value of a named member, if the value is an object that has it. -/
def member? (name : String) : Json → Option Json
  | .object members => lookup name members
  | _ => none

/-- The text of a string value. -/
def string? : Json → Option String
  | .string text => some text
  | _ => none

/-- A value that is absent is written as null. -/
def ofOption (value : Option String) : Json := (value.map Json.string).getD .null

/-- An array of strings. -/
def ofStrings (values : List String) : Json := .array (values.map .string)

/-- A natural number as a value. -/
def ofNat (n : Nat) : Json := .number (.integer n)

/-- An object from its members in any order. -/
def ofMembers (members : List (String × Json)) : Json :=
  .object (members.foldl (fun held entry => insertMember entry.1 entry.2 held) [])

end Json

end ResourceRouter
