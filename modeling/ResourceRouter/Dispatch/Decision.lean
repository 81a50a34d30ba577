import ResourceRouter.Dispatch.HandlerTable
import ResourceRouter.Dispatch.Permissions
import ResourceRouter.Fault

set_option autoImplicit false

/-!
Dispatch: a verb, an address and an action lead to one handler or to the fault that stands in the
way. The collections come first, then the verb and the action, then the permission, and the handler
last, so that a caller without permission learns nothing about handlers.
-/

namespace ResourceRouter

/-- What dispatch settles about a request. -/
structure Decision where
  handler : String
  action : String
  collection : Option String
  shape : Shape
  /-- The permission that opened the action, if it asks for any. -/
  permission : Option String
  /-- The validation that runs before the handler. -/
  hook : Option String
deriving DecidableEq, Repr

/-- The collections that a request involves: the one it names first, and the one whose actions it
asks for. -/
structure Involved where
  primary : Collection
  target : Collection
deriving DecidableEq, Repr

/-- The collections of a catalogue, with the handlers of their actions. -/
structure Dispatcher where
  catalogue : Catalogue
  handlers : HandlerTable

namespace Dispatcher

/-- The handler of the entrypoint. -/
def entrypointHandler : String := "entrypoint"

/-- The handler that answers which verbs a collection supports. -/
def optionsHandler : String := "options"

/-- The handler of declared actions that have none of their own. -/
def customHandler : String := "custom_action_resource"

/-- The dispatcher with the conventional handlers. -/
def ofCatalogue (catalogue : Catalogue) : Dispatcher := ⟨catalogue, .ofCatalogue catalogue⟩

/-- The collections that a name and the name of a subcollection lead to. -/
def involved (catalogue : Catalogue) (collection : String) (subcollection : Option String) :
    Except Fault Involved :=
  match catalogue.find? collection, subcollection with
  | none, _ => .error (.unknownCollection collection)
  | some primary, none =>
    if primary.isSubcollectionOnly then .error (.subcollectionOnly collection)
    else .ok ⟨primary, primary⟩
  | some primary, some name =>
    match catalogue.find? name with
    | none => .error (.unknownSubcollection name collection)
    | some target =>
      if primary.hasSubcollection name then .ok ⟨primary, target⟩
      else .error (.unknownSubcollection name collection)

/-- The action that a collection declares under a verb for a shape. -/
def declaredAction (target : Collection) (verb : Verb) (shape : Shape) (action : String) :
    Except Fault ActionSpec :=
  if target.supportsVerb verb then
    match (target.actions.at shape.target).action? verb action with
    | some spec => .ok spec
    | none => .error (.undeclaredAction action target.name shape)
  else .error (.unsupportedVerb verb target.name)

/-- The permission that opens an action, if it asks for any. -/
def permission (target : Collection) (spec : ActionSpec) (action : String)
    (permissions : Permissions) : Except Fault (Option String) :=
  if spec.disabled then .error (.disabledAction action target.name)
  else
    match spec.access permissions.allows with
    | .unrestricted => .ok none
    | .granted identifier => .ok (some identifier)
    | .denied => .error (.deniedAction action target.name)

/-- The handler of an action: its own, or the generic one of a collection that has it. -/
def handler (handlers : HandlerTable) (primary : Collection) (subcollection : Option String)
    (shape : Shape) (action : String) : Except Fault String :=
  match handlers.lookup ⟨primary.name, subcollection, shape.target, action⟩ with
  | some handler => .ok handler
  | none =>
    if !shape.isSubcollection && primary.hasOption .customActions then .ok customHandler
    else .error (.noHandler action primary.name shape)

/-- The decision on the entrypoint, which is only read or asked for its options. -/
def resolveEntrypoint (verb : Verb) (action : String) : Except Fault Decision :=
  match verb with
  | .get => .ok ⟨entrypointHandler, action, none, .collection, none, none⟩
  | .options => .ok ⟨optionsHandler, action, none, .collection, none, none⟩
  | _ => .error (.entrypointVerb verb)

/-- The decision on a request; `explicit` is the action that it names itself. -/
def resolve (dispatcher : Dispatcher) (verb : Verb) (address : Address) (explicit : Option String)
    (permissions : Permissions) : Except Fault Decision := do
  let action := verb.action explicit
  match address.collection with
  | none => resolveEntrypoint verb action
  | some collection =>
    let shape := address.shape
    let ⟨primary, target⟩ ← involved dispatcher.catalogue collection address.subcollection
    if verb = .options then
      return ⟨optionsHandler, action, some collection, shape, none, none⟩
    let spec ← declaredAction target verb shape action
    let permission ← permission target spec action permissions
    let handler ← handler dispatcher.handlers primary address.subcollection shape action
    return ⟨handler, action, some collection, shape, permission, spec.hook⟩

end Dispatcher

end ResourceRouter
