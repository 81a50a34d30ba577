import ResourceRouter.Address.Basic
import ResourceRouter.Filter.Operator
import ResourceRouter.Json.Printer
import ResourceRouter.Schema
import ResourceRouter.Verb

set_option autoImplicit false

/-!
The reasons why a request is refused, the wording of each, and the class that callers see.
-/

namespace ResourceRouter

/-- What callers are told to do: mend the request, ask for a permission, or name another record. -/
inductive FaultClass where
  | badRequest
  | forbidden
  | notFound
deriving DecidableEq, Repr

namespace FaultClass

def name : FaultClass → String
  | .badRequest => "bad_request"
  | .forbidden => "forbidden"
  | .notFound => "not_found"

/-- The status code of the class. -/
def status : FaultClass → Nat
  | .badRequest => 400
  | .forbidden => 403
  | .notFound => 404

end FaultClass

/-- The kind of a fault: the stage or the rule that refuses the request. -/
inductive FaultKind where
  | invalidFilter
  | unsupportedAction
  | badRequest
  | forbidden
  | notFound
deriving DecidableEq, Repr

namespace FaultKind

def name : FaultKind → String
  | .invalidFilter => "invalid_filter"
  | .unsupportedAction => "unsupported_action"
  | .badRequest => "bad_request"
  | .forbidden => "forbidden"
  | .notFound => "not_found"

/-- The words that introduce a message of this kind. -/
def heading : FaultKind → String
  | .invalidFilter => "Invalid filter: "
  | .unsupportedAction => "Unsupported action: "
  | .badRequest => "Bad request: "
  | .forbidden => "Forbidden: "
  | .notFound => "Not found: "

def toClass : FaultKind → FaultClass
  | .invalidFilter | .unsupportedAction | .badRequest => .badRequest
  | .forbidden => .forbidden
  | .notFound => .notFound

end FaultKind

/-- The word for a temporal type in messages. -/
def AttributeType.temporalLabel (type : AttributeType) : String :=
  if type = .date then "date" else "datetime"

/-- Why a filter does not compile. -/
inductive FilterFault where
  | noClauses
  | emptyClause
  | noOperator (clause : String)
  | tooManyHops (path : String)
  | missingAttribute (path : String)
  | unknownAssociation (association typeName : String)
  | unknownAttribute (name typeName : String)
  | temporalOperator (type : AttributeType) (operator : Operator)
  | temporalValue (type : AttributeType) (value : String)
deriving DecidableEq, Repr

def FilterFault.message : FilterFault → String
  | .noClauses => "No filter clauses specified"
  | .emptyClause => "Empty filter clause"
  | .noOperator clause => "Unknown filter operator specified in '" ++ clause ++ "'"
  | .tooManyHops path =>
    "Filtering of attributes with more than one association away is not supported: " ++ path
  | .missingAttribute path => "Missing attribute in filter expression '" ++ path ++ "'"
  | .unknownAssociation association typeName =>
    "Unknown association " ++ association ++ " for " ++ typeName
  | .unknownAttribute name typeName => "Attribute " ++ name ++ " does not exist for " ++ typeName
  | .temporalOperator type operator =>
    "Unsupported operator for " ++ type.temporalLabel ++ ": " ++ operator.text
  | .temporalValue type value => "Bad format for " ++ type.temporalLabel ++ ": " ++ value

/-- Why a request is refused. -/
inductive Fault where
  | filter (cause : FilterFault)
  | entrypointVerb (verb : Verb)
  | unknownCollection (collection : String)
  | subcollectionOnly (collection : String)
  | unknownSubcollection (subcollection collection : String)
  | unsupportedVerb (verb : Verb) (collection : String)
  | undeclaredAction (action collection : String) (shape : Shape)
  | noHandler (action collection : String) (shape : Shape)
  | disabledAction (action collection : String)
  | deniedAction (action collection : String)
  | unknownVerb (text : String)
  | unsupportedVersion (version : String)
  | identifiedCreation (collection : String)
  | resourcesNotArray
  | elementNotObject (index : Nat)
  | unidentifiedElement (collection : String)
  | invalidId (value : Json)
  | recordNotFound (collection attributeName : String) (value : Json)
  | untypedCollection (collection purpose : String)
  | unknownSelection (names : List String)
deriving Repr

namespace Fault

def kind : Fault → FaultKind
  | .filter _ => .invalidFilter
  | .entrypointVerb _ | .unknownCollection _ | .subcollectionOnly _ | .unknownSubcollection _ _
  | .unsupportedVerb _ _ | .undeclaredAction _ _ _ | .noHandler _ _ _ => .unsupportedAction
  | .disabledAction _ _ | .deniedAction _ _ => .forbidden
  | .recordNotFound _ _ _ => .notFound
  | .unknownVerb _ | .unsupportedVersion _ | .identifiedCreation _ | .resourcesNotArray
  | .elementNotObject _ | .unidentifiedElement _ | .invalidId _ | .untypedCollection _ _
  | .unknownSelection _ => .badRequest

/-- The wording of a fault, without its heading. -/
def message : Fault → String
  | .filter cause => cause.message
  | .entrypointVerb verb => "Unsupported HTTP verb " ++ verb.label ++ " for the API entrypoint"
  | .unknownCollection collection => "Unsupported collection " ++ collection ++ " specified"
  | .subcollectionOnly collection =>
    "Collection " ++ collection ++ " is only available as a subcollection"
  | .unknownSubcollection subcollection collection =>
    "Unsupported subcollection " ++ subcollection ++ " specified for " ++ collection
  | .unsupportedVerb verb collection =>
    "Unsupported HTTP verb " ++ verb.label ++ " for " ++ collection
  | .undeclaredAction action collection shape =>
    "Unsupported action " ++ action ++ " for " ++ collection ++ " " ++ shape.text
  | .noHandler action collection shape =>
    "No handler for " ++ action ++ " on " ++ collection ++ " " ++ shape.text
  | .disabledAction action collection =>
    "Action " ++ action ++ " for " ++ collection ++ " is disabled"
  | .deniedAction action collection =>
    "Use of the " ++ action ++ " action for " ++ collection ++ " is forbidden"
  | .unknownVerb text => "Unsupported HTTP verb " ++ text
  | .unsupportedVersion version => "Unsupported API version " ++ version ++ " specified"
  | .identifiedCreation collection =>
    "Resource id or href should not be specified for creating a new " ++ collection
  | .resourcesNotArray => "Invalid resources specified, expected an array"
  | .elementNotObject index =>
    "Invalid resource specified at index " ++ toString index ++ ", expected an object"
  | .unidentifiedElement collection =>
    "Resource id, href or identifying attribute must be specified for " ++ collection
  | .invalidId value => "Invalid resource id " ++ value.compact
  | .recordNotFound collection attributeName value =>
    "Couldn't find " ++ collection ++ " with " ++ attributeName ++ "=" ++ value.compact
  | .untypedCollection collection purpose => collection ++ " does not support " ++ purpose
  | .unknownSelection names => "Invalid attributes specified: " ++ ", ".intercalate names

def toClass (fault : Fault) : FaultClass := fault.kind.toClass

def status (fault : Fault) : Nat := fault.toClass.status

/-- The wording of a fault with its heading. -/
def display (fault : Fault) : String := fault.kind.heading ++ fault.message

end Fault

end ResourceRouter
