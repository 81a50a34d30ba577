import ResourceRouter.Dispatch.Decision
import ResourceRouter.Proofs.Address.Shape
import ResourceRouter.Proofs.Catalogue.Entries
import ResourceRouter.Proofs.Stage

set_option autoImplicit false

/-!
Which requests dispatch admits. The conditions are stated on the entries of the catalogue, apart from
the stages that check them; each stage then answers for its own condition, and a request is admitted
with one decision or refused by the first condition that it fails.
-/

namespace ResourceRouter

namespace Dispatcher

/-- The entries that a collection and perhaps a subcollection lead to: the one that is named first,
and the one whose actions are asked for. -/
inductive Reaches (catalogue : Catalogue) (collection : String) :
    Option String → Collection → Collection → Prop where
  /-- Without a subcollection, the entry must be more than a subcollection of others. -/
  | direct {primary : Collection} (registered : catalogue.find? collection = some primary)
      (primaryUse : ¬ (.subcollection ∈ primary.options ∧ .collection ∉ primary.options)) :
      Reaches catalogue collection none primary primary
  | nested {name : String} {primary target : Collection}
      (registered : catalogue.find? collection = some primary)
      (found : catalogue.find? name = some target) (listed : name ∈ primary.subcollections) :
      Reaches catalogue collection (some name) primary target

/-- The entry accepts the verb and declares the action under it for a kind of target. -/
structure Declares (target : Collection) (verb : Verb) (kind : Target) (action : String)
    (spec : ActionSpec) : Prop where
  accepted : verb ∈ target.verbs
  declared : ∃ specs, (target.actions.at kind).find? verb = some specs ∧ spec ∈ specs ∧
    spec.name = action

/-- The action is enabled, and asks for no permission or for one that the caller holds. -/
structure Opens (permissions : Permissions) (spec : ActionSpec) : Prop where
  enabled : spec.disabled = false
  allowed : spec.identifiers = [] ∨
    ∃ identifier ∈ spec.identifiers, permissions.allows identifier = true

/-- The action has a handler of its own, or a collection takes it that answers for custom actions
upon its own records. -/
def Handled (handlers : HandlerTable) (primary : Collection) (key : HandlerKey) : Prop :=
  (∃ handler, handlers.lookup key = some handler) ∨
    key.subcollection = none ∧ .customActions ∈ primary.options

section Stages

variable {catalogue : Catalogue} {handlers : HandlerTable} {permissions : Permissions}
variable {collection action : String} {subcollection : Option String}
variable {primary target : Collection} {verb : Verb} {shape : Shape} {spec : ActionSpec}

theorem involved_eq_ok :
    involved catalogue collection subcollection = .ok ⟨primary, target⟩ ↔
      Reaches catalogue collection subcollection primary target := by
  constructor
  · intro settled
    unfold involved at settled
    split at settled
    · cases settled
    · next registered =>
        split at settled
        · cases settled
        · next primaryUse =>
            cases settled
            refine .direct registered ?_
            simpa [Collection.isSubcollectionOnly, Collection.hasOption] using primaryUse
    · next registered =>
        split at settled
        · cases settled
        · next found =>
            split at settled
            · next listed =>
                cases settled
                exact .nested registered found (by simpa [Collection.hasSubcollection] using listed)
            · cases settled
  · rintro (⟨registered, primaryUse⟩ | ⟨registered, found, listed⟩)
    · have primaryUse : primary.isSubcollectionOnly = false := by
        simpa [Collection.isSubcollectionOnly, Collection.hasOption] using primaryUse
      simp [involved, registered, primaryUse]
    · simp [involved, registered, found, Collection.hasSubcollection, listed]

/-- An address that leads to no entry is refused for one of its two names. -/
theorem involved_eq_error {fault : Fault}
    (failed : involved catalogue collection subcollection = .error fault) :
    fault = .unknownCollection collection ∨ fault = .subcollectionOnly collection ∨
      ∃ name, fault = .unknownSubcollection name collection := by
  unfold involved at failed
  split at failed
  · exact .inl (Except.error.inj failed).symm
  · split at failed
    · exact .inr (.inl (Except.error.inj failed).symm)
    · cases failed
  · split at failed
    · exact .inr (.inr ⟨_, (Except.error.inj failed).symm⟩)
    · split at failed
      · cases failed
      · exact .inr (.inr ⟨_, (Except.error.inj failed).symm⟩)

theorem declaredAction_eq_ok_iff :
    declaredAction target verb shape action = .ok spec ↔
      verb ∈ target.verbs ∧ (target.actions.at shape.target).action? verb action = some spec := by
  rw [declaredAction]
  by_cases supported : verb ∈ target.verbs
  · rw [if_pos (by simpa [Collection.supportsVerb] using supported)]
    cases (target.actions.at shape.target).action? verb action <;> simp [supported]
  · simp [Collection.supportsVerb, supported]

theorem declaredAction_eq_ok {config : Config} (accepted : Catalogue.ofConfig config = .ok catalogue)
    {name : String} (registered : catalogue.find? name = some target) :
    declaredAction target verb shape action = .ok spec ↔
      Declares target verb shape.target action spec := by
  rw [declaredAction_eq_ok_iff, Catalogue.action?_eq_some_iff accepted registered]
  exact ⟨fun found => ⟨found.1, found.2⟩, fun found => ⟨found.accepted, found.declared⟩⟩

theorem declaredAction_undeclared {config : Config}
    (accepted : Catalogue.ofConfig config = .ok catalogue) {name : String}
    (registered : catalogue.find? name = some target) (supported : verb ∈ target.verbs)
    (undeclared : ∀ spec, ¬ Declares target verb shape.target action spec) :
    declaredAction target verb shape action =
      .error (.undeclaredAction action target.name shape) := by
  rw [declaredAction, if_pos (by simpa [Collection.supportsVerb] using supported)]
  cases search : (target.actions.at shape.target).action? verb action with
  | none => rfl
  | some spec =>
      have declared := (Catalogue.action?_eq_some_iff accepted registered).mp search
      exact absurd ⟨supported, declared⟩ (undeclared spec)

theorem permission_eq_ok {granted : Option String} :
    permission target spec action permissions = .ok granted ↔
      Opens permissions spec ∧ spec.identifiers.find? permissions.allows = granted := by
  unfold permission
  by_cases disabled : spec.disabled = true
  · have closed : ¬ Opens permissions spec := fun opens => by simp [opens.enabled] at disabled
    simp [disabled, closed]
  have enabled : spec.disabled = false := by simpa using disabled
  rw [if_neg disabled, ActionSpec.access]
  by_cases unguarded : spec.identifiers = []
  · have opens : Opens permissions spec := ⟨enabled, .inl unguarded⟩
    simp [unguarded, opens]
  rw [if_neg (by simpa using unguarded)]
  cases search : spec.identifiers.find? permissions.allows with
  | none =>
      have closed : ¬ Opens permissions spec := by
        rintro ⟨-, empty | ⟨identifier, listed, allowed⟩⟩
        · exact unguarded empty
        · exact List.find?_eq_none.mp search identifier listed allowed
      simp [closed]
  | some identifier =>
      have opens : Opens permissions spec := ⟨enabled, .inr
        ⟨identifier, List.mem_of_find?_eq_some search, List.find?_some search⟩⟩
      simp [opens]

/-- An action is closed to a caller for being disabled, or for asking for what the caller lacks. -/
theorem permission_eq_error {fault : Fault}
    (failed : permission target spec action permissions = .error fault) :
    spec.disabled = true ∧ fault = .disabledAction action target.name ∨
      fault = .deniedAction action target.name := by
  unfold permission at failed
  split at failed
  · next disabled => exact .inl ⟨disabled, (Except.error.inj failed).symm⟩
  · split at failed
    · cases failed
    · cases failed
    · exact .inr (Except.error.inj failed).symm

theorem handler_eq_ok {name : String} {address : Address} :
    handler handlers primary address.subcollection address.shape action = .ok name ↔
      Handled handlers primary ⟨primary.name, address.subcollection, address.shape.target, action⟩ ∧
        (handlers.lookup ⟨primary.name, address.subcollection, address.shape.target, action⟩).getD
          customHandler = name := by
  unfold handler
  cases held : handlers.lookup ⟨primary.name, address.subcollection, address.shape.target, action⟩ with
  | some own => simp [Handled, held]
  | none =>
      simp only [Address.isSubcollection_shape, Handled, held, Collection.hasOption]
      cases address.subcollection <;> by_cases custom : .customActions ∈ primary.options <;>
        simp [custom]

theorem handler_unhandled {address : Address}
    (unhandled : ¬ Handled handlers primary
      ⟨primary.name, address.subcollection, address.shape.target, action⟩) :
    handler handlers primary address.subcollection address.shape action =
      .error (.noHandler action primary.name address.shape) := by
  rw [Handled, not_or, not_exists, not_and] at unhandled
  have missing := Option.eq_none_iff_forall_not_mem.mpr unhandled.1
  simp only [handler, missing, Address.isSubcollection_shape, Collection.hasOption]
  cases direct : address.subcollection with
  | none => simp [unhandled.2 direct]
  | some name => rfl

theorem Reaches.registered_primary
    (reached : Reaches catalogue collection subcollection primary target) :
    catalogue.find? collection = some primary := by
  cases reached <;> assumption

theorem Reaches.registered_target
    (reached : Reaches catalogue collection subcollection primary target) :
    ∃ name, catalogue.find? name = some target := by
  cases reached with
  | direct registered => exact ⟨collection, registered⟩
  | nested registered found => exact ⟨_, found⟩

end Stages

section Requests

variable (catalogue : Catalogue) (handlers : HandlerTable) (permissions : Permissions)
variable (verb : Verb) (address : Address) (collection action : String)

/-- Every condition on a request that is not for options, with the entries and the action that meet
them. -/
structure Admits (primary target : Collection) (spec : ActionSpec) : Prop where
  reached : Reaches catalogue collection address.subcollection primary target
  declares : Declares target verb address.shape.target action spec
  opens : Opens permissions spec
  handled : Handled handlers primary
    ⟨collection, address.subcollection, address.shape.target, action⟩

/-- The decision on an admitted request: its own handler or else the custom one, and the first of the
declared permissions that the caller holds. -/
def admittedDecision (spec : ActionSpec) : Decision where
  handler := (handlers.lookup
    ⟨collection, address.subcollection, address.shape.target, action⟩).getD customHandler
  action := action
  collection := some collection
  shape := address.shape
  permission := spec.identifiers.find? permissions.allows
  hook := spec.hook

/-- The fault of the first condition that a request fails. -/
inductive Refuses : Fault → Prop where
  | unregistered (missing : catalogue.find? collection = none) :
      Refuses (.unknownCollection collection)
  | subcollectionOnly {primary : Collection} (registered : catalogue.find? collection = some primary)
      (direct : address.subcollection = none) (nestedUse : .subcollection ∈ primary.options)
      (noPrimaryUse : .collection ∉ primary.options) :
      Refuses (.subcollectionOnly collection)
  | unlisted {primary : Collection} {name : String}
      (registered : catalogue.find? collection = some primary)
      (nested : address.subcollection = some name)
      (unlisted : catalogue.find? name = none ∨ name ∉ primary.subcollections) :
      Refuses (.unknownSubcollection name collection)
  | unaccepted {primary target : Collection}
      (reached : Reaches catalogue collection address.subcollection primary target)
      (unaccepted : verb ∉ target.verbs) :
      Refuses (.unsupportedVerb verb target.name)
  | undeclared {primary target : Collection}
      (reached : Reaches catalogue collection address.subcollection primary target)
      (accepted : verb ∈ target.verbs)
      (undeclared : ∀ spec, ¬ Declares target verb address.shape.target action spec) :
      Refuses (.undeclaredAction action target.name address.shape)
  | disabled {primary target : Collection} {spec : ActionSpec}
      (reached : Reaches catalogue collection address.subcollection primary target)
      (declares : Declares target verb address.shape.target action spec)
      (disabled : spec.disabled = true) :
      Refuses (.disabledAction action target.name)
  | denied {primary target : Collection} {spec : ActionSpec}
      (reached : Reaches catalogue collection address.subcollection primary target)
      (declares : Declares target verb address.shape.target action spec)
      (enabled : spec.disabled = false) (guarded : spec.identifiers ≠ [])
      (denied : ∀ identifier ∈ spec.identifiers, permissions.allows identifier = false) :
      Refuses (.deniedAction action target.name)
  | unhandled {primary target : Collection} {spec : ActionSpec}
      (reached : Reaches catalogue collection address.subcollection primary target)
      (declares : Declares target verb address.shape.target action spec)
      (opens : Opens permissions spec)
      (unhandled : ¬ Handled handlers primary
        ⟨collection, address.subcollection, address.shape.target, action⟩) :
      Refuses (.noHandler action collection address.shape)

end Requests

section Resolution

variable {config : Config} {catalogue : Catalogue} {handlers : HandlerTable}
variable {permissions : Permissions} {verb : Verb} {address : Address} {explicit : Option String}
variable {collection action : String}

/-- Every request is admitted or refused. -/
theorem admits_or_refuses (catalogue : Catalogue) (handlers : HandlerTable)
    (permissions : Permissions) (verb : Verb) (address : Address) (collection action : String) :
    (∃ primary target spec,
      Admits catalogue handlers permissions verb address collection action primary target spec) ∨
    ∃ fault, Refuses catalogue handlers permissions verb address collection action fault := by
  have reach : (∃ primary target,
        Reaches catalogue collection address.subcollection primary target) ∨
      ∃ fault, Refuses catalogue handlers permissions verb address collection action fault := by
    cases registered : catalogue.find? collection with
    | none => exact .inr ⟨_, .unregistered registered⟩
    | some primary =>
        cases named : address.subcollection with
        | none =>
            by_cases nestedOnly : .subcollection ∈ primary.options ∧ .collection ∉ primary.options
            · exact .inr ⟨_, .subcollectionOnly registered named nestedOnly.1 nestedOnly.2⟩
            · exact .inl ⟨primary, primary, .direct registered nestedOnly⟩
        | some name =>
            cases found : catalogue.find? name with
            | none => exact .inr ⟨_, .unlisted registered named (.inl found)⟩
            | some target =>
                by_cases listed : name ∈ primary.subcollections
                · exact .inl ⟨primary, target, .nested registered found listed⟩
                · exact .inr ⟨_, .unlisted registered named (.inr listed)⟩
  rcases reach with ⟨primary, target, reached⟩ | refused
  · by_cases accepted : verb ∈ target.verbs
    · by_cases declared : ∃ spec, Declares target verb address.shape.target action spec
      · obtain ⟨spec, declares⟩ := declared
        cases enabled : spec.disabled with
        | true => exact .inr ⟨_, .disabled reached declares enabled⟩
        | false =>
            by_cases allowed : spec.identifiers = [] ∨
                ∃ identifier ∈ spec.identifiers, permissions.allows identifier = true
            · have opens : Opens permissions spec := ⟨enabled, allowed⟩
              by_cases handled : Handled handlers primary
                  ⟨collection, address.subcollection, address.shape.target, action⟩
              · exact .inl ⟨primary, target, spec, reached, declares, opens, handled⟩
              · exact .inr ⟨_, .unhandled reached declares opens handled⟩
            · rw [not_or] at allowed
              refine .inr ⟨_, .denied reached declares enabled allowed.1 fun identifier listed => ?_⟩
              by_contra held
              exact allowed.2 ⟨identifier, listed, by simpa using held⟩
      · exact .inr ⟨_, .undeclared reached accepted (not_exists.mp declared)⟩
    · exact .inr ⟨_, .unaccepted reached accepted⟩
  · exact .inr refused

/-- The stages of dispatch for a request to a collection. -/
theorem resolve_eq (dispatcher : Dispatcher) (notOptions : verb ≠ .options)
    (named : address.collection = some collection) :
    dispatcher.resolve verb address explicit permissions = (do
      let entries ← involved dispatcher.catalogue collection address.subcollection
      let spec ← declaredAction entries.target verb address.shape (verb.action explicit)
      let permission ← permission entries.target spec (verb.action explicit) permissions
      let handler ← handler dispatcher.handlers entries.primary address.subcollection address.shape
        (verb.action explicit)
      return ⟨handler, verb.action explicit, some collection, address.shape, permission,
        spec.hook⟩) := by
  simp only [resolve, named, if_neg notOptions]

/-- A request for options depends on nothing but the entries. -/
theorem resolve_options (dispatcher : Dispatcher) (named : address.collection = some collection) :
    dispatcher.resolve .options address explicit permissions = (do
      let _ ← involved dispatcher.catalogue collection address.subcollection
      return ⟨optionsHandler, "options", some collection, address.shape, none, none⟩) := by
  simp only [resolve, named]
  rfl

/-- A request whose address leads to no entry is refused for that, options included. -/
theorem resolve_of_involved (named : address.collection = some collection) {fault : Fault}
    (failed : involved catalogue collection address.subcollection = .error fault) :
    (⟨catalogue, handlers⟩ : Dispatcher).resolve verb address explicit permissions =
      .error fault := by
  by_cases options : verb = .options
  · rw [options, resolve_options _ named, failed]
    rfl
  · rw [resolve_eq _ options named, failed]
    rfl

theorem resolve_of_reaches (notOptions : verb ≠ .options)
    (named : address.collection = some collection) {primary target : Collection}
    (reached : Reaches catalogue collection address.subcollection primary target) :
    (⟨catalogue, handlers⟩ : Dispatcher).resolve verb address explicit permissions = (do
      let spec ← declaredAction target verb address.shape (verb.action explicit)
      let permission ← permission target spec (verb.action explicit) permissions
      let handler ← handler handlers primary address.subcollection address.shape
        (verb.action explicit)
      return ⟨handler, verb.action explicit, some collection, address.shape, permission,
        spec.hook⟩) := by
  rw [resolve_eq _ notOptions named, involved_eq_ok.mpr reached]
  rfl

theorem resolve_of_declares (accepted : Catalogue.ofConfig config = .ok catalogue)
    (notOptions : verb ≠ .options) (named : address.collection = some collection)
    {primary target : Collection} {spec : ActionSpec}
    (reached : Reaches catalogue collection address.subcollection primary target)
    (declares : Declares target verb address.shape.target (verb.action explicit) spec) :
    (⟨catalogue, handlers⟩ : Dispatcher).resolve verb address explicit permissions = (do
      let permission ← permission target spec (verb.action explicit) permissions
      let handler ← handler handlers primary address.subcollection address.shape
        (verb.action explicit)
      return ⟨handler, verb.action explicit, some collection, address.shape, permission,
        spec.hook⟩) := by
  obtain ⟨name, registered⟩ := reached.registered_target
  rw [resolve_of_reaches notOptions named reached,
    (declaredAction_eq_ok accepted registered).mpr declares]
  rfl

theorem resolve_of_opens (accepted : Catalogue.ofConfig config = .ok catalogue)
    (notOptions : verb ≠ .options) (named : address.collection = some collection)
    {primary target : Collection} {spec : ActionSpec}
    (reached : Reaches catalogue collection address.subcollection primary target)
    (declares : Declares target verb address.shape.target (verb.action explicit) spec)
    (opens : Opens permissions spec) :
    (⟨catalogue, handlers⟩ : Dispatcher).resolve verb address explicit permissions = (do
      let handler ← handler handlers primary address.subcollection address.shape
        (verb.action explicit)
      return ⟨handler, verb.action explicit, some collection, address.shape,
        spec.identifiers.find? permissions.allows, spec.hook⟩) := by
  rw [resolve_of_declares accepted notOptions named reached declares,
    permission_eq_ok.mpr ⟨opens, rfl⟩]
  rfl

theorem resolve_eq_ok_iff (accepted : Catalogue.ofConfig config = .ok catalogue)
    (notOptions : verb ≠ .options) (named : address.collection = some collection)
    {decision : Decision} :
    (⟨catalogue, handlers⟩ : Dispatcher).resolve verb address explicit permissions = .ok decision ↔
      ∃ primary target spec,
        Admits catalogue handlers permissions verb address collection (verb.action explicit)
          primary target spec ∧
        admittedDecision handlers permissions address collection (verb.action explicit) spec =
          decision := by
  constructor
  · intro resolved
    rw [resolve_eq _ notOptions named] at resolved
    simp only [Stage.bind_eq_ok, Stage.pure_eq_ok] at resolved
    obtain ⟨⟨primary, target⟩, settled, spec, found, permission, opened, handler, handled, rfl⟩ :=
      resolved
    have reached := involved_eq_ok.mp settled
    obtain ⟨name, registered⟩ := reached.registered_target
    have declares := (declaredAction_eq_ok accepted registered).mp found
    obtain ⟨opens, rfl⟩ := permission_eq_ok.mp opened
    rw [handler_eq_ok, Catalogue.name_of_find? accepted reached.registered_primary] at handled
    obtain ⟨handled, rfl⟩ := handled
    exact ⟨primary, target, spec, ⟨reached, declares, opens, handled⟩, rfl⟩
  · rintro ⟨primary, target, spec, ⟨reached, declares, opens, handled⟩, rfl⟩
    have own := Catalogue.name_of_find? accepted reached.registered_primary
    subst own
    rw [resolve_of_opens accepted notOptions named reached declares opens,
      handler_eq_ok.mpr ⟨handled, rfl⟩]
    rfl

/-- A request is refused with the fault of the first condition that it fails. -/
theorem resolve_eq_error_of_refuses (accepted : Catalogue.ofConfig config = .ok catalogue)
    (notOptions : verb ≠ .options) (named : address.collection = some collection) {fault : Fault}
    (refused : Refuses catalogue handlers permissions verb address collection
      (verb.action explicit) fault) :
    (⟨catalogue, handlers⟩ : Dispatcher).resolve verb address explicit permissions =
      .error fault := by
  cases refused with
  | unregistered missing =>
      exact resolve_of_involved named (by simp [involved, missing])
  | @subcollectionOnly primary registered direct nestedUse noPrimaryUse =>
      have closed : primary.isSubcollectionOnly = true := by
        simp [Collection.isSubcollectionOnly, Collection.hasOption, nestedUse, noPrimaryUse]
      exact resolve_of_involved named (by simp [involved, registered, direct, closed])
  | @unlisted primary name registered nested unlisted =>
      apply resolve_of_involved named
      rw [nested]
      cases found : catalogue.find? name with
      | none => simp [involved, registered, found]
      | some target =>
          have absent := unlisted.resolve_left (by simp [found])
          simp [involved, registered, found, Collection.hasSubcollection, absent]
  | unaccepted reached unaccepted =>
      rw [resolve_of_reaches notOptions named reached, Stage.bind_eq_error]
      exact .inl (by simp [declaredAction, Collection.supportsVerb, unaccepted])
  | undeclared reached supported undeclared =>
      obtain ⟨name, registered⟩ := reached.registered_target
      rw [resolve_of_reaches notOptions named reached, Stage.bind_eq_error]
      exact .inl (declaredAction_undeclared accepted registered supported undeclared)
  | disabled reached declares disabled =>
      rw [resolve_of_declares accepted notOptions named reached declares, Stage.bind_eq_error]
      exact .inl (by simp [permission, disabled])
  | @denied primary target spec reached declares enabled guarded denied =>
      have search : spec.identifiers.find? permissions.allows = none :=
        List.find?_eq_none.mpr fun identifier listed => by simp [denied identifier listed]
      rw [resolve_of_declares accepted notOptions named reached declares, Stage.bind_eq_error]
      exact .inl (by simp [permission, enabled, ActionSpec.access, guarded, search])
  | unhandled reached declares opens unhandled =>
      have own := Catalogue.name_of_find? accepted reached.registered_primary
      rw [← own] at unhandled
      rw [resolve_of_opens accepted notOptions named reached declares opens, Stage.bind_eq_error,
        handler_unhandled unhandled, own]
      exact .inl rfl

/-- Dispatch fails exactly with the fault of the first condition that fails. -/
theorem resolve_eq_error_iff (accepted : Catalogue.ofConfig config = .ok catalogue)
    (notOptions : verb ≠ .options) (named : address.collection = some collection) {fault : Fault} :
    (⟨catalogue, handlers⟩ : Dispatcher).resolve verb address explicit permissions =
        .error fault ↔
      Refuses catalogue handlers permissions verb address collection (verb.action explicit)
        fault := by
  refine ⟨fun failed => ?_, resolve_eq_error_of_refuses accepted notOptions named⟩
  rcases admits_or_refuses catalogue handlers permissions verb address collection
    (verb.action explicit) with ⟨primary, target, spec, admitted⟩ | ⟨other, refused⟩
  · rw [(resolve_eq_ok_iff accepted notOptions named).mpr
      ⟨primary, target, spec, admitted, rfl⟩] at failed
    cases failed
  · rw [resolve_eq_error_of_refuses accepted notOptions named refused] at failed
    cases failed
    exact refused

/-- Options are asked for without an action: the collections have to lead somewhere, and nothing else
is checked. -/
theorem resolve_options_eq_ok_iff (named : address.collection = some collection)
    {decision : Decision} :
    (⟨catalogue, handlers⟩ : Dispatcher).resolve .options address explicit permissions =
        .ok decision ↔
      (∃ primary target, Reaches catalogue collection address.subcollection primary target) ∧
        ⟨optionsHandler, "options", some collection, address.shape, none, none⟩ = decision := by
  rw [resolve_options _ named, Stage.bind_eq_ok]
  simp only [Stage.pure_eq_ok]
  constructor
  · rintro ⟨⟨primary, target⟩, settled, same⟩
    exact ⟨⟨primary, target, involved_eq_ok.mp settled⟩, same⟩
  · rintro ⟨⟨primary, target, reached⟩, same⟩
    exact ⟨⟨primary, target⟩, involved_eq_ok.mpr reached, same⟩

/-- Dispatch admits a request to a collection exactly when every condition holds, with one decision,
and otherwise refuses it by the first condition that fails. -/
theorem resolve_decides (accepted : Catalogue.ofConfig config = .ok catalogue)
    (handlers : HandlerTable) (permissions : Permissions) (verb : Verb) (address : Address)
    (named : address.collection = some collection) (explicit : Option String) :
    (verb ≠ .options →
      (∀ decision,
        (⟨catalogue, handlers⟩ : Dispatcher).resolve verb address explicit permissions =
            .ok decision ↔
          ∃ primary target spec,
            Admits catalogue handlers permissions verb address collection (verb.action explicit)
              primary target spec ∧
            admittedDecision handlers permissions address collection (verb.action explicit) spec =
              decision) ∧
      ∀ fault,
        (⟨catalogue, handlers⟩ : Dispatcher).resolve verb address explicit permissions =
            .error fault ↔
          Refuses catalogue handlers permissions verb address collection (verb.action explicit)
            fault) ∧
    (verb = .options → ∀ decision,
      (⟨catalogue, handlers⟩ : Dispatcher).resolve verb address explicit permissions =
          .ok decision ↔
        (∃ primary target, Reaches catalogue collection address.subcollection primary target) ∧
          ⟨optionsHandler, "options", some collection, address.shape, none, none⟩ = decision) := by
  refine ⟨fun notOptions => ⟨fun decision => ?_, fun fault => ?_⟩, ?_⟩
  · exact resolve_eq_ok_iff accepted notOptions named
  · exact resolve_eq_error_iff accepted notOptions named
  · rintro rfl decision
    exact resolve_options_eq_ok_iff named

/-- Tags are assigned through a machine, by the second of the permissions that the action names. -/
theorem resolve_decides_assign :
    Catalogue.ofConfig .machines = .ok .machines ∧
      (⟨.machines, .ofCatalogue .machines⟩ : Dispatcher).resolve .post
        ⟨some "machines", some "7", some "tags", none, none⟩ (some " assign ")
        (.ofGrants ["tag_admin"]) =
        .ok ⟨"tags_assign_resource", "assign", some "machines", .subcollection, some "tag_admin",
          some "check_tag"⟩ := by
  refine ⟨Catalogue.ofConfig_machines, ?_⟩
  have decides := resolve_decides Catalogue.ofConfig_machines (.ofCatalogue .machines)
    (.ofGrants ["tag_admin"]) .post ⟨some "machines", some "7", some "tags", none, none⟩ rfl
    (some " assign ")
  rw [(decides.1 (by decide)).1]
  have reached : Reaches .machines "machines" (some "tags")
      (.ofConfig "machines" .machines) (.ofConfig "tags" .tags) :=
    .nested (by decide +kernel) (by decide +kernel) (by decide)
  have declares : Declares (.ofConfig "tags" .tags) .post .subcollection (Verb.post.action " assign ")
      (.ofConfig .assign) :=
    ⟨by decide, [.ofConfig .assign], rfl, by decide, by decide +kernel⟩
  have opens : Opens (.ofGrants ["tag_admin"]) (.ofConfig .assign) :=
    ⟨rfl, .inr ⟨"tag_admin", by decide, by decide⟩⟩
  refine ⟨_, _, _, ⟨reached, declares, opens, .inl ⟨"tags_assign_resource", ?_⟩⟩, ?_⟩
  · decide +kernel
  · decide +kernel

end Resolution

end Dispatcher

end ResourceRouter
