import ResourceRouter.Json.Basic

set_option autoImplicit false

/-!
Settings as they are written, before they are given a meaning. Layers of settings are merged table
by table; anything that is not a table replaces what is below it.
-/

namespace ResourceRouter

/-- A written setting. No setting is numeric, so that a number keeps no value. -/
inductive Setting where
  | null
  | flag (value : Bool)
  | number
  | character (value : Char)
  | text (value : String)
  | list (items : List Setting)
  | table (members : List (String × Setting))
deriving BEq, Repr, Inhabited

namespace Setting

/-- Puts a member at its place in the order of names; a member of the same name is replaced. -/
def insertMember (name : String) (value : Setting) :
    List (String × Setting) → List (String × Setting)
  | [] => [(name, value)]
  | (other, held) :: rest =>
    if name = other then (name, value) :: rest
    else if name < other then (name, value) :: (other, held) :: rest
    else (other, held) :: insertMember name value rest

mutual

/-- The settings of a JSON document. -/
def ofJson : Json → Setting
  | .null => .null
  | .bool value => .flag value
  | .number _ => .number
  | .string value => .text value
  | .array elements => .list (ofElements elements)
  | .object members => .table (ofMembers members)

def ofElements : List Json → List Setting
  | [] => []
  | element :: rest => ofJson element :: ofElements rest

def ofMembers : List (String × Json) → List (String × Setting)
  | [] => []
  | (name, value) :: rest => (name, ofJson value) :: ofMembers rest

end

mutual

/-- The settings of two layers, the second above the first. -/
def merge (below : Setting) : Setting → Setting
  | .table above =>
    match below with
    | .table below => .table (mergeMembers below above)
    | _ => .table above
  | above => above

def mergeMembers (below : List (String × Setting)) :
    List (String × Setting) → List (String × Setting)
  | [] => below
  | (name, value) :: rest =>
    let merged :=
      match below.lookup name with
      | some held => merge held value
      | none => value
    mergeMembers (insertMember name merged below) rest

end

end Setting

end ResourceRouter
