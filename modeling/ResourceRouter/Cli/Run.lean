import ResourceRouter.Cli.Invocation
import ResourceRouter.Config.Load
import ResourceRouter.Service

set_option autoImplicit false

/-!
What the program answers: one JSON value, or an error with its cause. It depends on the arguments,
the content of files and the environment alone.
-/

namespace ResourceRouter.Cli

/-- Why a command fails. -/
inductive Failure where
  | configuration (cause : LoadFault)
  | catalogue (cause : Defect)
  | body
  | filter (cause : Fault)
  | request (cause : Fault)

namespace Failure

/-- The first line about a failure. -/
def message : Failure → String
  | .configuration _ => "failed to load configuration"
  | .catalogue _ => "invalid collection registry"
  | .body => "--body is not valid JSON"
  | .filter fault => fault.display
  | .request fault => fault.display ++ " (HTTP " ++ toString fault.status ++ ")"

/-- What lies behind a failure. -/
def cause? : Failure → Option String
  | .configuration cause => some cause.message
  | .catalogue cause => some cause.message
  | _ => none

end Failure

/-- How deeply the values of a body may nest. -/
def bodyLimit : Nat := 127

/-- The address of an href with its canonical href and its shape. -/
def locate (config : Config) (href : String) : Json :=
  let locator := Locator.under config.root .compressed
  let address := locator.parse href
  .ofMembers [("address", address.wire), ("href", .string (locator.href address)),
    ("shape", address.shape.wire)]

/-- The wire form of a filter on a configured type. -/
def filter (config : Config) (typeName : String) (clauses : List String) : Except Failure Json :=
  match Filter.compile (.ofTypes config.types) config.grouping typeName clauses with
  | .ok expression => .ok expression.wire
  | .error cause => .error (.filter (.filter cause))

/-- The value of a body, if there is one. -/
def readBody : Option String → Except Failure (Option Json)
  | none => .ok none
  | some text =>
    match Json.parse? bodyLimit text with
    | some value => .ok (some value)
    | none => .error .body

/-- The answer to a command under a configuration. -/
def answer (config : Config) : Command → Except Failure Json
  | .locate href => .ok (locate config href)
  | .filter typeName clauses => filter config typeName clauses
  | .resolve verb path body filters selection grants => do
    let service ← (Service.ofConfig config).mapError Failure.catalogue
    let body ← readBody body
    let request : Request := ⟨verb, path, body, filters, selection⟩
    let operation ← (service.prepare request (.ofGrants grants)).mapError Failure.request
    return operation.wire

/-- The answer to an invocation; `read` gives the content of a file. -/
def run (read : String → Option String) (environment : List (String × String))
    (invocation : Invocation) : Except Failure Json := do
  let config ← (Config.load read invocation.shared.config environment).mapError
    Failure.configuration
  answer config invocation.command

end ResourceRouter.Cli
