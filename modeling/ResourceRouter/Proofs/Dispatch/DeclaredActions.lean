import ResourceRouter.Proofs.Dispatch.Authorization
import ResourceRouter.Proofs.Dispatch.Handlers

set_option autoImplicit false

/-!
Declared actions and their handlers. The table is filled by what the collections declare and read by
what an address leads to; both name a handler by the same key, so an open action goes to its
conventional handler wherever that exists.
-/

namespace ResourceRouter

/-- Without a subcollection, an address is that of a collection or of one of its records. -/
theorem Address.target_shape_direct {address : Address} (direct : address.subcollection = none) :
    address.shape.target = .collection ∨ address.shape.target = .resource := by
  cases given : address.collectionId <;> simp [shape, direct, given]

theorem Address.target_shape_nested {address : Address} {name : String}
    (nested : address.subcollection = some name) :
    address.shape.target = .subcollection ∨ address.shape.target = .subresource := by
  cases given : address.subcollectionId <;> simp [shape, nested, given]

namespace Dispatcher

open HandlerTable (Serves)

/-- An action stands among those that a collection declares under a verb for a kind of target. -/
def Lists (target : Collection) (verb : Verb) (kind : Target) (spec : ActionSpec) : Prop :=
  ∃ specs, (target.actions.at kind).find? verb = some specs ∧ spec ∈ specs

/-- The decision on a request for an open action, with the handler that it goes to. -/
def openedDecision (permissions : Permissions) (address : Address) (collection : String)
    (spec : ActionSpec) (handler : String) : Decision where
  handler := handler
  action := spec.name
  collection := some collection
  shape := address.shape
  permission := spec.identifiers.find? permissions.allows
  hook := spec.hook

section Conventional

variable {config : Config} {catalogue : Catalogue} {permissions : Permissions} {verb : Verb}
variable {address : Address} {explicit : Option String} {collection : String}
variable {primary target : Collection} {spec : ActionSpec}

theorem Lists.declares (listed : Lists target verb address.shape.target spec)
    (accepted : Catalogue.ofConfig config = .ok catalogue)
    (reached : Reaches catalogue collection address.subcollection primary target) :
    Declares target verb address.shape.target spec.name spec := by
  obtain ⟨specs, held, member⟩ := listed
  obtain ⟨name, registered⟩ := reached.registered_target
  exact ⟨(Catalogue.sound_actions accepted registered held).1, specs, held, member, rfl⟩

/-- The collection that an address goes through serves what the address leads to. -/
theorem Reaches.serves
    (reached : Reaches catalogue collection address.subcollection primary target)
    (listed : Lists target verb address.shape.target spec) :
    Serves catalogue primary address.subcollection address.shape.target spec.name := by
  obtain ⟨specs, held, member⟩ := listed
  have offered : target.Offers address.shape.target spec.name :=
    ⟨verb, specs, spec, held, member, rfl⟩
  cases through : address.subcollection with
  | none =>
      rw [through] at reached
      cases reached
      exact .own (Address.target_shape_direct through) offered
  | some name =>
      rw [through] at reached
      cases reached with
      | nested _ found within =>
          exact .nested within found (Address.target_shape_nested through) offered

/-- The table leads what is declared to its conventional handler, if that exists. -/
theorem Reaches.lookup_conventional (accepted : Catalogue.ofConfig config = .ok catalogue)
    (reached : Reaches catalogue collection address.subcollection primary target)
    (listed : Lists target verb address.shape.target spec) :
    (HandlerTable.ofCatalogue catalogue).lookup
        ⟨collection, address.subcollection, address.shape.target, spec.name⟩ =
      if primary.implements (HandlerKey.conventionalName address.subcollection spec.name) then
        some (HandlerKey.conventionalName address.subcollection spec.name)
      else none :=
  HandlerTable.lookup_served accepted reached.registered_primary (reached.serves listed)

/-- What dispatch makes of a declared action: the conventional handler, the custom one in its place,
or none. -/
theorem handler_reached (accepted : Catalogue.ofConfig config = .ok catalogue)
    (reached : Reaches catalogue collection address.subcollection primary target)
    (listed : Lists target verb address.shape.target spec) :
    handler (.ofCatalogue catalogue) primary address.subcollection address.shape spec.name =
      if primary.implements (HandlerKey.conventionalName address.subcollection spec.name) then
        .ok (HandlerKey.conventionalName address.subcollection spec.name)
      else if address.subcollection = none ∧ .customActions ∈ primary.options then .ok customHandler
      else .error (.noHandler spec.name collection address.shape) := by
  have own := Catalogue.name_of_find? accepted reached.registered_primary
  rw [handler, own, reached.lookup_conventional accepted listed, Address.isSubcollection_shape]
  by_cases implemented : primary.implements
      (HandlerKey.conventionalName address.subcollection spec.name) = true
  · simp only [implemented, ↓reduceIte]
  · simp only [implemented, Bool.false_eq_true, ↓reduceIte, Collection.hasOption]
    cases address.subcollection <;> simp

/-- The whole answer to a request for an open action, where handlers follow the convention. -/
theorem resolve_reached (accepted : Catalogue.ofConfig config = .ok catalogue)
    (notOptions : verb ≠ .options) (named : address.collection = some collection)
    (reached : Reaches catalogue collection address.subcollection primary target)
    (listed : Lists target verb address.shape.target spec) (opens : Opens permissions spec)
    (asked : verb.action explicit = spec.name) :
    (ofCatalogue catalogue).resolve verb address explicit permissions =
      if primary.implements (HandlerKey.conventionalName address.subcollection spec.name) then
        .ok (openedDecision permissions address collection spec
          (HandlerKey.conventionalName address.subcollection spec.name))
      else if address.subcollection = none ∧ .customActions ∈ primary.options then
        .ok (openedDecision permissions address collection spec customHandler)
      else .error (.noHandler spec.name collection address.shape) := by
  have declares := listed.declares accepted reached
  rw [← asked] at declares
  rw [ofCatalogue, resolve_of_opens accepted notOptions named reached declares opens, asked,
    handler_reached accepted reached listed]
  split
  · rfl
  · split <;> rfl

/-- Only a request without a subcollection for an action of this one name has the custom handler by
convention. -/
theorem conventionalName_eq_customHandler {action : String} :
    HandlerKey.conventionalName none action = customHandler ↔ action = "custom_action" := by
  have parts : customHandler = "custom_action" ++ "_resource" := by decide
  rw [HandlerKey.conventionalName, parts, String.append_left_inj]

/-- An open action goes to its conventional handler exactly where that exists, but for the one action
whose conventional handler is the custom one. -/
theorem resolve_eq_conventional_iff (accepted : Catalogue.ofConfig config = .ok catalogue)
    (notOptions : verb ≠ .options) (named : address.collection = some collection)
    (reached : Reaches catalogue collection address.subcollection primary target)
    (listed : Lists target verb address.shape.target spec) (opens : Opens permissions spec)
    (asked : verb.action explicit = spec.name) :
    (ofCatalogue catalogue).resolve verb address explicit permissions =
        .ok (openedDecision permissions address collection spec
          (HandlerKey.conventionalName address.subcollection spec.name)) ↔
      primary.implements (HandlerKey.conventionalName address.subcollection spec.name) = true ∨
        address.subcollection = none ∧ .customActions ∈ primary.options ∧
          spec.name = "custom_action" := by
  have same_handler {first second : String} :
      openedDecision permissions address collection spec first =
        openedDecision permissions address collection spec second ↔ first = second :=
    ⟨congrArg Decision.handler, congrArg _⟩
  rw [resolve_reached accepted notOptions named reached listed opens asked]
  split
  · next implemented => simp only [implemented, true_or]
  · next missing =>
      split
      · next custom =>
          -- The custom handler has taken the place: the two answers agree if the names do.
          rw [Except.ok.injEq, same_handler, eq_comm, custom.1, conventionalName_eq_customHandler]
          rw [custom.1] at missing
          simp [missing, custom]
      · next closed =>
          refine iff_of_false (by simp) ?_
          rintro (implemented | ⟨direct, custom, -⟩)
          · exact missing implemented
          · exact closed ⟨direct, custom⟩

/-- Without a list of handlers, an entry is never refused for want of one. -/
theorem resolve_ne_noHandler (accepted : Catalogue.ofConfig config = .ok catalogue)
    (named : address.collection = some collection)
    (registered : catalogue.find? collection = some primary) (unlisted : primary.handlers = none)
    {action other : String} {shape : Shape} :
    (ofCatalogue catalogue).resolve verb address explicit permissions ≠
      .error (.noHandler action other shape) := by
  intro failed
  by_cases options : verb = .options
  · rw [options, resolve_options _ named, Stage.bind_eq_error] at failed
    rcases failed with failed | ⟨_, _, failed⟩
    · rcases involved_eq_error failed with fault | fault | ⟨_, fault⟩ <;> cases fault
    · exact Stage.pure_ne_error failed
  · rw [ofCatalogue, resolve_eq_error_iff accepted options named] at failed
    cases failed with
    | @unhandled entry target spec reached declares opens unhandled =>
        obtain rfl : primary = entry :=
          Option.some.inj (registered.symm.trans reached.registered_primary)
        obtain ⟨specs, held, member, asked⟩ := declares.declared
        have found := reached.lookup_conventional accepted ⟨specs, held, member⟩
        rw [if_pos (by simp [Collection.implements, unlisted]), asked] at found
        exact unhandled (.inl ⟨_, found⟩)

/-- A declared action that is open goes to its conventional handler. Where a list of handlers leaves
that out, the custom handler takes its place or the request is refused; without a list that never
happens. Options are asked for before any declared action is. -/
theorem resolve_declared (accepted : Catalogue.ofConfig config = .ok catalogue)
    (named : address.collection = some collection)
    (registered : catalogue.find? collection = some primary) :
    (primary.handlers = none → ∀ verb explicit permissions action other shape,
      (ofCatalogue catalogue).resolve verb address explicit permissions ≠
        .error (.noHandler action other shape)) ∧
    (∀ target explicit permissions,
      Reaches catalogue collection address.subcollection primary target →
      (ofCatalogue catalogue).resolve .options address explicit permissions =
        .ok ⟨optionsHandler, "options", some collection, address.shape, none, none⟩) ∧
    ∀ target verb explicit permissions spec,
      Reaches catalogue collection address.subcollection primary target →
      verb ≠ .options → Lists target verb address.shape.target spec →
      verb.action explicit = spec.name → Opens permissions spec →
      let answer := (ofCatalogue catalogue).resolve verb address explicit permissions
      let decision := openedDecision permissions address collection spec
      let name := HandlerKey.conventionalName address.subcollection spec.name
      (primary.handlers = none → answer = .ok (decision name)) ∧
      ∀ names, primary.handlers = some names →
        (name ∈ names → answer = .ok (decision name)) ∧
        (name ∉ names → answer =
          if address.subcollection = none ∧ .customActions ∈ primary.options then
            .ok (decision customHandler)
          else .error (.noHandler spec.name collection address.shape)) ∧
        (answer = .ok (decision name) ↔ name ∈ names ∨
          address.subcollection = none ∧ .customActions ∈ primary.options ∧
            spec.name = "custom_action") := by
  refine ⟨fun unlisted verb explicit permissions action other shape =>
    resolve_ne_noHandler accepted named registered unlisted, ?_, ?_⟩
  · intro target explicit permissions reached
    exact (resolve_options_eq_ok_iff named).mpr ⟨⟨primary, target, reached⟩, rfl⟩
  · intro target verb explicit permissions spec reached notOptions listed asked opens answer decision
      name
    have whole := resolve_reached accepted notOptions named reached listed opens asked
    have exactly := resolve_eq_conventional_iff accepted notOptions named reached listed opens asked
    refine ⟨fun unlisted => ?_, fun names held => ?_⟩
    · exact exactly.mpr (.inl (by simp [Collection.implements, unlisted]))
    · have exists_iff : primary.implements name = true ↔ name ∈ names := by
        simp [Collection.implements, held]
      rw [exists_iff] at exactly
      refine ⟨fun given => exactly.mpr (.inl given), fun missing => ?_, exactly⟩
      rw [if_neg (missing ∘ exists_iff.mp)] at whole
      exact whole

theorem resolve_declared_machines :
    Catalogue.ofConfig .machines = .ok .machines ∧
      (ofCatalogue .machines).resolve .post ⟨some "machines", some "7", some "tags", none, none⟩
        (some "assign") (.ofGrants ["tag_owner"]) =
        .ok ⟨"tags_assign_resource", "assign", some "machines", .subcollection, some "tag_owner",
          some "check_tag"⟩ := by
  have registered : Catalogue.machines.find? "machines" = some (.ofConfig "machines" .machines) := by
    decide +kernel
  have reached : Reaches .machines "machines" (some "tags") (.ofConfig "machines" .machines)
      (.ofConfig "tags" .tags) :=
    .nested registered (by decide +kernel) (by decide)
  have listed : Lists (.ofConfig "tags" .tags) .post .subcollection (.ofConfig .assign) :=
    ⟨[.ofConfig .assign], rfl, List.mem_cons_self⟩
  have opens : Opens (.ofGrants ["tag_owner"]) (.ofConfig .assign) :=
    ⟨rfl, .inr ⟨"tag_owner", by decide, by decide⟩⟩
  have named : (⟨some "machines", some "7", some "tags", none, none⟩ : Address).collection =
      some "machines" := rfl
  obtain ⟨-, -, declared⟩ := resolve_declared Catalogue.ofConfig_machines named registered
  obtain ⟨answered, -⟩ := declared _ .post (some "assign") _ _ reached (by decide) listed
    (by decide +kernel) opens
  exact ⟨Catalogue.ofConfig_machines, (answered rfl).trans (congrArg Except.ok (by decide +kernel))⟩

end Conventional

end Dispatcher

/-- A collection that declares the action of the verb for which no declared action is looked up. -/
def CollectionConfig.manuals : CollectionConfig where
  __ := CollectionConfig.blank
  verbs := [.options]
  options := [.collection]
  actions := ⟨ByVerb.empty.set .options [⟨"options", none, false, none⟩], .empty, .empty, .empty⟩

/-- A collection without handlers whose one action is called like the custom handler. -/
def CollectionConfig.scripts : CollectionConfig where
  __ := CollectionConfig.blank
  verbs := [.post]
  options := [.collection, .customActions]
  handlers := some []
  actions := ⟨ByVerb.empty.set .post [⟨"custom_action", none, false, none⟩], .empty, .empty, .empty⟩

/-- An interface of both. -/
def Config.library : Config where
  __ := Config.standard
  collections := .ofList [("manuals", .manuals), ("scripts", .scripts)]

def Catalogue.library : Catalogue where
  collections := Config.library.collections.mapEntries Collection.ofConfig
  supportedVersions := []

namespace Dispatcher

/-- Options are not answered by the handler of the action that is declared for them; and a list of
handlers may leave out a name that is answered with all the same, being that of the custom handler. -/
theorem resolve_declared_library :
    Catalogue.ofConfig .library = .ok .library ∧
      (∃ manuals spec, Reaches .library "manuals" none manuals manuals ∧
        Lists manuals .options .collection spec ∧ Opens .nothing spec ∧
        Verb.options.action none = spec.name ∧ manuals.handlers = none ∧
        ∀ decision,
          (ofCatalogue .library).resolve .options (.ofCollection "manuals") none .nothing =
            .ok decision →
          decision.handler ≠ HandlerKey.conventionalName none spec.name) ∧
      ∃ scripts spec, Reaches .library "scripts" none scripts scripts ∧
        Lists scripts .post .collection spec ∧ Opens .nothing spec ∧
        Verb.post.action (some "custom_action") = spec.name ∧ scripts.handlers = some [] ∧
        ∃ decision,
          (ofCatalogue .library).resolve .post (.ofCollection "scripts") (some "custom_action")
            .nothing = .ok decision ∧
          decision.handler = HandlerKey.conventionalName none spec.name := by
  refine ⟨by decide +kernel, ?_, ?_⟩
  · refine ⟨.ofConfig "manuals" .manuals, ⟨"options", [], false, none⟩,
      .direct (by decide +kernel) (by decide), ⟨_, rfl, List.mem_cons_self⟩, ⟨rfl, .inl rfl⟩, rfl,
      rfl, fun decision answered => ?_⟩
    have answer : (ofCatalogue .library).resolve .options (.ofCollection "manuals") none .nothing =
        .ok ⟨optionsHandler, "options", some "manuals", .collection, none, none⟩ :=
      Stage.toOption_eq_some.mp (by decide +kernel)
    rw [answer] at answered
    cases answered
    decide
  · refine ⟨.ofConfig "scripts" .scripts, ⟨"custom_action", [], false, none⟩,
      .direct (by decide +kernel) (by decide), ⟨_, rfl, List.mem_cons_self⟩, ⟨rfl, .inl rfl⟩,
      by decide +kernel, rfl,
      ⟨customHandler, "custom_action", some "scripts", .collection, none, none⟩,
      Stage.toOption_eq_some.mp (by decide +kernel), by decide⟩

end Dispatcher

end ResourceRouter
