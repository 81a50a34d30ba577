import ResourceRouter.Proofs.Filter.Typing
import ResourceRouter.Proofs.Service.Pipeline
import ResourceRouter.Proofs.Service.Reconfiguration

set_option autoImplicit false

/-!
What an operation carries has been checked. Its filter and its selection fit the type of the records
that the request is about, which a subcollection decides where there is one, and its version is
supported. A selection that does not fit is refused with all the names that it should not have.
-/

namespace ResourceRouter

/-- The configured collection whose records an address is about: that of the subcollection, if the
address has one, and that of its collection otherwise. -/
def Config.target? (config : Config) (address : Address) : Option CollectionConfig :=
  match address.subcollection with
  | some subcollection => config.collections.find? subcollection
  | none => address.collection.bind config.collections.find?

/-- The type of the records that an address is about. -/
def Config.targetType? (config : Config) (address : Address) : Option String :=
  (config.target? address).bind (·.typeName)

/-- The type has an attribute, physical or computed, or an association of this name. -/
def Schema.Knows (schema : Schema) (typeName name : String) : Prop :=
  schema.hasAttribute typeName name = true ∨ schema.isVirtual typeName name = true ∨
    ∃ other, schema.associatedType typeName name = some other

theorem Schema.isSelectable_iff {schema : Schema} {typeName name : String} :
    Service.isSelectable schema typeName name = true ↔ schema.Knows typeName name := by
  simp only [Service.isSelectable, isRealAttribute, Knows, Bool.or_eq_true, or_assoc,
    Option.isSome_iff_exists]

instance (schema : Schema) (typeName name : String) : Decidable (schema.Knows typeName name) :=
  decidable_of_iff _ Schema.isSelectable_iff

/-- What an operation carries fits the configuration and the type of the records that its request is
about. -/
structure Operation.IsChecked (config : Config) (schema : Schema) (address : Address)
    (request : Request) (operation : Operation) : Prop where
  /-- There is a filter exactly when the request has clauses. -/
  filter_given : operation.filter.isSome = true ↔ request.filters ≠ []
  /-- The filter is that of the clauses on the type, and every condition is about this type. -/
  filter_compiled : ∀ filter ∈ operation.filter, ∃ typeName,
    config.targetType? address = some typeName ∧
      Filter.compile schema config.grouping typeName request.filters = .ok filter ∧
      ∀ condition ∈ filter.conditions, condition.field.typeName = typeName
  /-- The names selected are those asked for. -/
  selection_kept : operation.selection = request.selection
  /-- The type knows every name selected. -/
  selection_known : operation.selection ≠ [] → ∃ typeName,
    config.targetType? address = some typeName ∧
      ∀ name ∈ operation.selection, schema.Knows typeName name
  /-- A version asked for is supported; without a list of versions, every version is. -/
  version_supported : ∀ version ∈ address.version,
    config.supportedVersions = [] ∨ version ∈ config.supportedVersions

/-- Every condition of a compiled filter is about the type that the filter is compiled on. -/
theorem Filter.onType_of_compile {schema : Schema} {grouping : Grouping} {typeName : String}
    {clauses : List String} {filter : Expression}
    (compiled : compile schema grouping typeName clauses = .ok filter) :
    ∀ condition ∈ filter.conditions, condition.field.typeName = typeName := by
  obtain ⟨-, terms, each, rfl⟩ := compile_eq_ok.mp compiled
  intro condition inside
  obtain ⟨term, listed, rfl⟩ := mem_conditions_compose.mp inside
  obtain ⟨text, -, done⟩ := Stage.exists_of_mem_right each listed
  obtain ⟨clause, -, -, typed⟩ := wellTyped_of_compileClause done
  exact typed.onType

namespace Service

variable {config : Config} {service : Service} {address : Address}

theorem Follows.targetType_eq_ok (follows : service.Follows config) {purpose typeName : String} :
    service.targetType address purpose = .ok typeName ↔
      config.targetType? address = some typeName := by
  have found (name : String) : (service.catalogue.find? name).bind (·.typeName) =
      (config.collections.find? name).bind (·.typeName) := by
    rw [Catalogue.find?_of_ofConfig follows.catalogue]
    cases config.collections.find? name <;> rfl
  have same : (service.targetCollection? address).bind (·.typeName) =
      config.targetType? address := by
    rw [targetCollection?, Address.targetCollection, Config.targetType?, Config.target?]
    cases address.subcollection with
    | some subcollection => exact found subcollection
    | none => cases address.collection with
      | some collection => exact found collection
      | none => rfl
  rw [targetType, ← same]
  cases (service.targetCollection? address).bind (·.typeName) <;> simp

theorem Follows.checkVersion_eq_ok (follows : service.Follows config) :
    service.checkVersion address = .ok () ↔ ∀ version ∈ address.version,
      config.supportedVersions = [] ∨ version ∈ config.supportedVersions := by
  have listed : service.catalogue.supportedVersions = config.supportedVersions := by
    obtain ⟨-, same⟩ := Catalogue.ofConfig_eq_ok.mp follows.catalogue
    rw [← same]
  rw [checkVersion]
  cases address.version with
  | none => simp
  | some version => simp [Catalogue.supportsVersion, listed, or_iff_not_imp_left]

theorem Follows.compileFilter_eq_ok (follows : service.Follows config) {clauses : List String}
    {result : Option Expression} :
    service.compileFilter address clauses = .ok result ↔
      clauses = [] ∧ result = none ∨
      clauses ≠ [] ∧ ∃ typeName filter, config.targetType? address = some typeName ∧
        Filter.compile service.schema config.grouping typeName clauses = .ok filter ∧
          result = some filter := by
  rw [compileFilter]
  by_cases absent : clauses = []
  · simp [absent, eq_comm]
  · have present : ¬ clauses.isEmpty = true := by simpa using absent
    rw [if_neg present]
    simp only [Stage.bind_eq_ok, Stage.pure_eq_ok, Stage.mapError_eq_ok, follows.targetType_eq_ok,
      follows.grouping, absent, false_and, false_or, ne_eq, not_false_eq_true, true_and]
    constructor
    · rintro ⟨typeName, typed, filter, compiled, rfl⟩
      exact ⟨typeName, filter, typed, compiled, rfl⟩
    · rintro ⟨typeName, filter, typed, compiled, rfl⟩
      exact ⟨typeName, typed, filter, compiled, rfl⟩

/-- Where the type is known, a selection passes as it is unless it has names that the type does not
know; then these are reported, in the order in which they were asked for. -/
theorem Follows.checkSelection_eq (follows : service.Follows config) {typeName : String}
    (typed : config.targetType? address = some typeName) (names : List String) :
    service.checkSelection address names =
      if ∀ name ∈ names, service.schema.Knows typeName name then .ok names
      else .error (.unknownSelection
        (names.filter fun name => ¬ service.schema.Knows typeName name)) := by
  have same (name : String) : isSelectable service.schema typeName name =
      decide (service.schema.Knows typeName name) := by
    rw [Bool.eq_iff_iff, Schema.isSelectable_iff, decide_eq_true_iff]
  by_cases absent : names = []
  · simp [checkSelection, absent]
  · have present : ¬ names.isEmpty = true := by simpa using absent
    rw [checkSelection, if_neg present, follows.targetType_eq_ok.mpr typed]
    simp [bind, Except.bind, same, List.filter_eq_nil_iff, pure, Except.pure]

theorem Follows.checkSelection_eq_ok (follows : service.Follows config)
    {names selection : List String} :
    service.checkSelection address names = .ok selection ↔
      names = selection ∧ (names ≠ [] → ∃ typeName, config.targetType? address = some typeName ∧
        ∀ name ∈ names, service.schema.Knows typeName name) := by
  by_cases absent : names = []
  · simp [checkSelection, absent]
  cases typed : config.targetType? address with
  | none =>
      have present : ¬ names.isEmpty = true := by simpa using absent
      rw [checkSelection, if_neg present, Stage.bind_eq_ok]
      simp [follows.targetType_eq_ok, typed, absent]
  | some typeName =>
      rw [follows.checkSelection_eq typed]
      by_cases known : ∀ name ∈ names, service.schema.Knows typeName name
      · rw [if_pos known, Except.ok.injEq]
        exact (and_iff_left fun _ => ⟨typeName, rfl, known⟩).symm
      · simp [absent, known]

theorem Follows.isChecked_of_prepare (follows : service.Follows config) {request : Request}
    {permissions : Permissions} {operation : Operation}
    (prepared : service.prepare request permissions = .ok operation) :
    operation.IsChecked config service.schema (service.locator.parse request.path) request := by
  obtain ⟨versioned, -, -, compiled, checked⟩ := prepare_eq_ok_iff.mp prepared
  obtain ⟨kept, known⟩ := follows.checkSelection_eq_ok.mp checked
  rw [follows.compileFilter_eq_ok] at compiled
  constructor
  case filter_given =>
    rcases compiled with ⟨absent, none⟩ | ⟨given, typeName, filter, -, -, some⟩
    · simp [absent, none]
    · simp [given, some]
  case filter_compiled =>
    intro filter carried
    rcases compiled with ⟨-, none⟩ | ⟨-, typeName, expression, typed, compiled, some⟩
    · rw [none] at carried
      cases carried
    · obtain rfl : expression = filter := by simpa [some] using carried
      exact ⟨typeName, typed, compiled, Filter.onType_of_compile compiled⟩
  case selection_kept => exact kept.symm
  case selection_known =>
    rw [← kept]
    exact known
  case version_supported => exact follows.checkVersion_eq_ok.mp versioned

/-- What an operation carries is checked against the type of its own records, whatever parts of the
service were replaced since it was configured. A request that only fails in its selection is told all
the names that this type does not know. -/
theorem prepare_checks {base : Service} (configured : ofConfig config = .ok base)
    (replacements : List Replacement) (request : Request) (permissions : Permissions) :
    let service := base.replaceAll replacements
    let address := service.locator.parse request.path
    (∀ operation, service.prepare request permissions = .ok operation →
      operation.IsChecked config service.schema address request) ∧
    ∀ typeName targets decision filter, config.targetType? address = some typeName →
      service.checkVersion address = .ok () →
      service.readTargets address request = .ok targets →
      service.dispatcher.resolve request.verb address request.explicitAction permissions =
        .ok decision →
      service.compileFilter address request.filters = .ok filter →
      (∃ name ∈ request.selection, ¬ service.schema.Knows typeName name) →
      ∃ fault, service.prepare request permissions = .error fault ∧ fault.kind = .badRequest ∧
        fault.message = "Invalid attributes specified: " ++ ", ".intercalate
          (request.selection.filter fun name => ¬ service.schema.Knows typeName name) := by
  intro service address
  have follows : service.Follows config := (follows_ofConfig configured).replaceAll replacements
  constructor
  · intro operation prepared
    exact follows.isChecked_of_prepare prepared
  · intro typeName targets decision filter typed versioned read resolved compiled unknown
    have refused : ¬ ∀ name ∈ request.selection, service.schema.Knows typeName name := by
      simpa using unknown
    have failed := follows.checkSelection_eq typed request.selection
    rw [if_neg refused] at failed
    refine ⟨_, prepare_eq_error_iff.mpr (.inr ⟨versioned, .inr ⟨targets, read, .inr ⟨decision,
      resolved, .inr ⟨filter, compiled, failed⟩⟩⟩⟩), rfl, rfl⟩

/-- The service of the small interface after a part of it was replaced. -/
abbrev replaced : Service := machines.replaceAll [.identity .nothing]

/-- The assignment of tags with other names selected. -/
abbrev selecting (names : List String) : Request := { assignment with selection := names }

/-- Tags are selected by the attributes of tags although they are reached through machines, which have
no type; a name that tags do not have is reported each time it is asked for. -/
theorem prepare_checks_assignment :
    ofConfig .machines = .ok machines ∧
    (∃ operation,
      replaced.prepare (selecting ["name"]) (.ofGrants ["tag_admin"]) = .ok operation ∧
      operation.IsChecked .machines replaced.schema (replaced.locator.parse assignment.path)
        (selecting ["name"])) ∧
    ∃ fault,
      replaced.prepare (selecting ["size", "name", "size"]) (.ofGrants ["tag_admin"]) =
        .error fault ∧
      fault.message = "Invalid attributes specified: size, size" := by
  refine ⟨ofConfig_machines, ?_, ?_⟩
  · have succeeds : (replaced.prepare (selecting ["name"])
        (.ofGrants ["tag_admin"])).toOption.isSome = true := by
      decide +kernel
    obtain ⟨operation, prepared⟩ := Stage.exists_ok_of_isSome succeeds
    have checks := prepare_checks ofConfig_machines [.identity .nothing] (selecting ["name"])
      (.ofGrants ["tag_admin"])
    exact ⟨operation, prepared, checks.1 operation prepared⟩
  · have checks := prepare_checks ofConfig_machines [.identity .nothing]
      (selecting ["size", "name", "size"]) (.ofGrants ["tag_admin"])
    have versioned : (replaced.checkVersion
        (replaced.locator.parse assignment.path)).toOption.isSome = true := by
      decide +kernel
    have read : (replaced.readTargets (replaced.locator.parse assignment.path)
        (selecting ["size", "name", "size"])).toOption.isSome = true := by
      decide +kernel
    have resolved : (replaced.dispatcher.resolve .post (replaced.locator.parse assignment.path)
        assignment.explicitAction (.ofGrants ["tag_admin"])).toOption.isSome = true := by
      decide +kernel
    have compiled : (replaced.compileFilter (replaced.locator.parse assignment.path)
        assignment.filters).toOption.isSome = true := by
      decide +kernel
    obtain ⟨⟨⟩, versioned⟩ := Stage.exists_ok_of_isSome versioned
    obtain ⟨targets, read⟩ := Stage.exists_ok_of_isSome read
    obtain ⟨decision, resolved⟩ := Stage.exists_ok_of_isSome resolved
    obtain ⟨filter, compiled⟩ := Stage.exists_ok_of_isSome compiled
    obtain ⟨fault, failed, -, worded⟩ := checks.2 "Tag" targets decision filter (by decide +kernel)
      versioned read resolved compiled ⟨"size", List.mem_cons_self, by decide +kernel⟩
    refine ⟨fault, failed, worded.trans ?_⟩
    decide +kernel

end Service

end ResourceRouter
