import ResourceRouter.Text.Blank

set_option autoImplicit false

/-!
Request verbs and the actions they stand for.
-/

namespace ResourceRouter

inductive Verb where
  | get
  | put
  | patch
  | post
  | delete
  | options
deriving DecidableEq, Repr, Inhabited

namespace Verb

/-- The verbs in their fixed order. -/
def all : List Verb := [.get, .put, .patch, .post, .delete, .options]

/-- The name of a verb in configurations. -/
def name : Verb → String
  | .get => "get"
  | .put => "put"
  | .patch => "patch"
  | .post => "post"
  | .delete => "delete"
  | .options => "options"

/-- The name of a verb in messages. -/
def label : Verb → String
  | .get => "GET"
  | .put => "PUT"
  | .patch => "PATCH"
  | .post => "POST"
  | .delete => "DELETE"
  | .options => "OPTIONS"

/-- The verb of a name, letter for letter. -/
def ofName? (name : String) : Option Verb := all.find? (·.name == name)

/-- The verb of a name in any mixture of upper and lower case ASCII letters. -/
def parse? (text : String) : Option Verb :=
  ofName? (String.ofList (text.toList.map Char.toLower))

/-- The action that a request asks for. Only a POST request may name one itself; a name made of
blanks is no name. -/
def action (verb : Verb) (explicit : Option String) : String :=
  match verb with
  | .get => "read"
  | .put | .patch => "edit"
  | .delete => "delete"
  | .options => "options"
  | .post =>
    match explicit.map Text.trimmed with
    | none => "create"
    | some named => if named = "" then "create" else named

end Verb

/-- Actions that make new records, whose elements therefore name none. -/
def isCreation (action : String) : Bool := action == "create" || action == "add"

end ResourceRouter
