import ResourceRouter.Catalogue.Build
import ResourceRouter.Dispatch.Decision
import ResourceRouter.Filter.Compile
import ResourceRouter.Operation
import ResourceRouter.Targets.Reader

set_option autoImplicit false

/-!
The service: a request goes in, and an operation or a fault comes out. Every stage only adds to the
operation, so that filters and bodies have no say in what dispatch decides.
-/

namespace ResourceRouter

/-- A request, whatever brought it here. -/
structure Request where
  verb : Verb
  /-- The href of what the request is about. -/
  path : String
  body : Option Json
  /-- The clauses of the filter, in order. -/
  filters : List String
  /-- The attributes that the answer is limited to; an empty list asks for all. -/
  selection : List String

/-- The action that the body names. -/
def Request.explicitAction (request : Request) : Option String :=
  (request.body.bind (Json.member? "action")).bind Json.string?

structure Service where
  catalogue : Catalogue
  locator : Locator
  dispatcher : Dispatcher
  schema : Schema
  identity : Identity
  grouping : Grouping
  /-- What reads the targets of requests; a new one is made when a part that it reads with is
  replaced. -/
  reader : TargetReader := ⟨locator, identity⟩

namespace Service

/-- The service of a configuration, with the conventional handlers, compressed ids, the configured
types and no way to find records by attributes. -/
def ofConfig (config : Config) : Except Defect Service :=
  (Catalogue.ofConfig config).map fun catalogue =>
    { catalogue := catalogue
      locator := .under config.root .compressed
      dispatcher := .ofCatalogue catalogue
      schema := .ofTypes config.types
      identity := .nothing
      grouping := config.grouping }

/-- The service with another encoding of ids. -/
def withDecoder (service : Service) (decoder : TokenDecoder) : Service :=
  let locator := Locator.under service.locator.root decoder
  { service with locator := locator, reader := ⟨locator, service.identity⟩ }

/-- The service with another way to find records. -/
def withIdentity (service : Service) (identity : Identity) : Service :=
  { service with identity := identity, reader := ⟨service.locator, identity⟩ }

/-- The service with other types. -/
def withSchema (service : Service) (schema : Schema) : Service := { service with schema := schema }

/-- The service with another dispatcher. Versions, types of collections and identifying attributes
still come from the catalogue of the service. -/
def withDispatcher (service : Service) (dispatcher : Dispatcher) : Service :=
  { service with dispatcher := dispatcher }

/-- The version of an address has to be supported. -/
def checkVersion (service : Service) (address : Address) : Except Fault Unit :=
  match address.version with
  | none => .ok ()
  | some version =>
    if service.catalogue.supportsVersion version then .ok ()
    else .error (.unsupportedVersion version)

/-- The collection whose records a request is about. -/
def targetCollection? (service : Service) (address : Address) : Option Collection :=
  address.targetCollection.bind service.catalogue.find?

/-- The targets of a request to an address. -/
def readTargets (service : Service) (address : Address) (request : Request) :
    Except Fault Targets :=
  let identifying := ((service.targetCollection? address).map (·.identifyingAttributes)).getD []
  service.reader.read request.verb address (request.verb.action request.explicitAction) identifying
    request.body

/-- The type of the records that a request is about. -/
def targetType (service : Service) (address : Address) (purpose : String) : Except Fault String :=
  match (service.targetCollection? address).bind (·.typeName) with
  | some typeName => .ok typeName
  | none =>
    .error (.untypedCollection (address.targetCollection.getD "The API entrypoint") purpose)

/-- The expression of a filter; without clauses there is none. -/
def compileFilter (service : Service) (address : Address) (clauses : List String) :
    Except Fault (Option Expression) :=
  if clauses.isEmpty then .ok none
  else do
    let typeName ← service.targetType address "filtering"
    let filter ←
      (Filter.compile service.schema service.grouping typeName clauses).mapError Fault.filter
    return some filter

/-- A selection may name attributes and associations. -/
def isSelectable (schema : Schema) (typeName name : String) : Bool :=
  schema.isRealAttribute typeName name || (schema.associatedType typeName name).isSome

/-- A selection that only names what the type has. -/
def checkSelection (service : Service) (address : Address) (names : List String) :
    Except Fault (List String) :=
  if names.isEmpty then .ok []
  else do
    let typeName ← service.targetType address "attribute selection"
    let unknown := names.filter fun name => !isSelectable service.schema typeName name
    if unknown.isEmpty then return names else .error (.unknownSelection unknown)

/-- The operation that a request asks for. The body is read before dispatch decides, and filter and
selection after it. -/
def prepare (service : Service) (request : Request) (permissions : Permissions) :
    Except Fault Operation := do
  let address := service.locator.parse request.path
  service.checkVersion address
  let targets ← service.readTargets address request
  let decision ←
    service.dispatcher.resolve request.verb address request.explicitAction permissions
  let filter ← service.compileFilter address request.filters
  let selection ← service.checkSelection address request.selection
  return ⟨decision, targets, filter, selection⟩

end Service

end ResourceRouter
