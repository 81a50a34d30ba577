import ResourceRouter.Config.Decode
import ResourceRouter.Config.Environment
import ResourceRouter.Json.Parser

set_option autoImplicit false

/-!
Loading a configuration: the standard settings, a document above them and the environment above
both.
-/

namespace ResourceRouter

/-- Why a configuration cannot be loaded. -/
inductive LoadFault where
  | notFound (path : String)
  | invalid (problem : Problem)
deriving DecidableEq, Repr

/-- The wording of a fault with its cause. -/
def LoadFault.message : LoadFault → String
  | .notFound path => "configuration file not found: " ++ path
  | .invalid problem => "invalid configuration: " ++ problem.kind.name ++ " at " ++ problem.key

namespace Config

/-- The standard settings as they would be written. -/
def standardSettings : List (String × Setting) :=
  [("api_prefix", .text "/api"), ("collections", .table []),
    ("filter_priority", .text "or_priority"), ("supported_versions", .list []),
    ("types", .table [])]

/-- The configuration of the standard settings with layers above them. -/
def ofLayers (layers : List (List (String × Setting))) : Except Problem Config :=
  Setting.decodeConfig (.table (layers.foldl Setting.mergeMembers standardSettings))

/-- The settings of a document, which has to be an object. -/
def documentSettings (document : Json) : Except Problem (List (String × Setting)) :=
  match Setting.ofJson document with
  | .table members => .ok members
  | _ => .error ⟨.message, []⟩

/-- The configuration of a document alone. -/
def ofDocument (document : Json) : Except Problem Config := do
  let members ← documentSettings document
  ofLayers [members]

/-- How deeply the values of a configuration file may nest. -/
def nestingLimit : Nat := 127

/-- Loads a configuration from a file, if a path is given, and the environment. `read` gives the
content of a regular file. -/
def load (read : String → Option String) (path : Option String)
    (environment : List (String × String)) : Except LoadFault Config := do
  let overrides := Environment.settings environment
  match path with
  | none => (ofLayers [overrides]).mapError .invalid
  | some path =>
    match read path with
    | none => .error (.notFound path)
    | some text =>
      match Json.parse? nestingLimit text with
      | none => .error (.invalid ⟨.message, []⟩)
      | some document =>
        (do
          let members ← documentSettings document
          ofLayers [members, overrides]).mapError .invalid

end Config

end ResourceRouter
