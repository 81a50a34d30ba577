import ResourceRouter.Proofs.Catalogue.Entries

set_option autoImplicit false

/-!
What a configuration has to obey, stated rule by rule and apart from the scan that looks for defects.
A configuration is accepted exactly when it obeys every rule, its catalogue offers the configured
actions and no others, and a defect names a place where its rule is broken.
-/

namespace ResourceRouter

/-- A collection is configured under a name, with a list of actions for a kind of target under a
verb. -/
structure Config.HasActions (config : Config) (name : String) (collection : CollectionConfig)
    (target : Target) (verb : Verb) (actions : List ActionConfig) : Prop where
  configured : config.collections.find? name = some collection
  held : (collection.actions.at target).find? verb = some actions

/-- The rules of a configuration. A list of actions stands under a verb of its collection even when
it is empty, and types are only asked for where some are configured. -/
structure Config.IsSound (config : Config) : Prop where
  versions : ∀ version ∈ config.supportedVersions, isVersionTag version = true
  subcollections : ∀ name collection, config.collections.find? name = some collection →
    ∀ sub ∈ collection.subcollections, ∃ other, config.collections.find? sub = some other
  types : config.types.isEmpty = false →
    ∀ name collection, config.collections.find? name = some collection →
      ∀ typeName ∈ collection.typeName, ∃ type, config.types.find? typeName = some type
  verbs : ∀ name collection target verb actions,
    config.HasActions name collection target verb actions → verb ∈ collection.verbs
  names : ∀ name collection target verb actions,
    config.HasActions name collection target verb actions →
      ∀ action ∈ actions, Text.isBlankText action.name = false
  distinct : ∀ name collection target verb actions,
    config.HasActions name collection target verb actions → (actions.map (·.name)).Nodup
  identifiers : ∀ name collection target verb actions,
    config.HasActions name collection target verb actions →
      ∀ action ∈ actions, ∀ identifier ∈ action.identifiers, Text.isBlankText identifier = false

/-- The configuration has the defect at the place that the defect names. -/
inductive Config.Violates (config : Config) : Defect → Prop where
  | invalidVersion {version : String} (listed : version ∈ config.supportedVersions)
      (untagged : isVersionTag version = false) : Violates config (.invalidVersion version)
  | unknownSubcollection {name sub : String} {collection : CollectionConfig}
      (configured : config.collections.find? name = some collection)
      (listed : sub ∈ collection.subcollections) (unknown : config.collections.find? sub = none) :
      Violates config (.unknownSubcollection name sub)
  | unknownType {name typeName : String} {collection : CollectionConfig}
      (configured : config.collections.find? name = some collection)
      (typed : collection.typeName = some typeName) (checked : config.types.isEmpty = false)
      (unknown : config.types.find? typeName = none) :
      Violates config (.unknownType name typeName)
  | undeclaredVerb {name : String} {collection : CollectionConfig} {target : Target} {verb : Verb}
      {actions : List ActionConfig} (held : config.HasActions name collection target verb actions)
      (undeclared : verb ∉ collection.verbs) :
      Violates config (.undeclaredVerb name target verb)
  | unnamedAction {name : String} {collection : CollectionConfig} {target : Target} {verb : Verb}
      {actions : List ActionConfig} {action : ActionConfig}
      (held : config.HasActions name collection target verb actions) (listed : action ∈ actions)
      (blank : Text.isBlankText action.name = true) :
      Violates config (.unnamedAction name target verb)
  | repeatedAction {name action : String} {collection : CollectionConfig} {target : Target}
      {verb : Verb} {actions : List ActionConfig}
      (held : config.HasActions name collection target verb actions)
      (twice : 2 ≤ (actions.map (·.name)).count action) :
      Violates config (.repeatedAction name target verb action)
  | blankIdentifier {name identifier : String} {collection : CollectionConfig} {target : Target}
      {verb : Verb} {actions : List ActionConfig} {action : ActionConfig}
      (held : config.HasActions name collection target verb actions) (listed : action ∈ actions)
      (asked : identifier ∈ action.identifiers) (blank : Text.isBlankText identifier = true) :
      Violates config (.blankIdentifier name action.name)

/-- The action of a catalogue is the configured one. -/
structure ActionSpec.Renders (spec : ActionSpec) (action : ActionConfig) : Prop where
  name : spec.name = action.name
  identifiers : spec.identifiers = action.identifiers
  disabled : spec.disabled = action.disabled
  hook : spec.hook = action.hook

/-- The collection has the configured settings and actions, and no other actions. -/
structure Collection.Renders (collection : Collection) (name : String) (source : CollectionConfig) :
    Prop where
  settings : collection = ⟨name, source.description, source.typeName, source.verbs, source.options,
    source.identifyingAttributes, source.subcollections, source.handlers, collection.actions⟩
  /-- A configured action is the only one of its name at its place, where the name finds it. -/
  found : ∀ target verb actions, (source.actions.at target).find? verb = some actions →
    ∀ action ∈ actions, actions.filter (·.name == action.name) = [action] ∧
      ∃ spec, (collection.actions.at target).action? verb action.name = some spec ∧
        spec.Renders action
  missing : ∀ target verb asked,
    (∀ actions, (source.actions.at target).find? verb = some actions →
      ∀ action ∈ actions, action.name ≠ asked) →
    (collection.actions.at target).action? verb asked = none
  once : ∀ target, (collection.actions.at target).declared.Nodup
  declared : ∀ target verb spec, (verb, spec) ∈ (collection.actions.at target).declared ↔
    ∃ actions, (source.actions.at target).find? verb = some actions ∧
      ∃ action ∈ actions, spec.Renders action

/-- The catalogue holds the configured collections under their names, and no others. -/
structure Catalogue.Renders (catalogue : Catalogue) (config : Config) : Prop where
  versions : catalogue.supportedVersions = config.supportedVersions
  names : catalogue.collections.entries.map (·.1) = config.collections.entries.map (·.1)
  collections : ∀ name source, config.collections.find? name = some source →
    ∃ collection, catalogue.find? name = some collection ∧ collection.Renders name source

theorem Verb.nodup_all : Verb.all.Nodup := by decide

theorem ActionSpec.renders_iff {spec : ActionSpec} {action : ActionConfig} :
    spec.Renders action ↔ spec = .ofConfig action := by
  constructor
  · rintro ⟨name, identifiers, disabled, hook⟩
    cases spec
    simp_all [ActionSpec.ofConfig]
  · rintro rfl
    exact ⟨rfl, rfl, rfl, rfl⟩

namespace Config

variable {config : Config} {name : String} {collection : CollectionConfig} {target : Target}
variable {verb : Verb} {defect : Defect}

/-- The scan of a list of actions, when it stands before `rest` and has seen the names of the actions
before that, reports a defect of the list. -/
theorem violates_of_actionDefect? {before rest : List ActionConfig}
    (held : config.HasActions name collection target verb (before ++ rest))
    (found : CollectionConfig.actionDefect? name target verb (before.map (·.name)).reverse rest =
      some defect) :
    config.Violates defect := by
  induction rest generalizing before with
  | nil => cases found
  | cons action rest ih =>
      have listed : action ∈ before ++ action :: rest := by simp
      unfold CollectionConfig.actionDefect? at found
      split at found
      · next blank =>
          cases found
          exact .unnamedAction held listed blank
      split at found
      · next repeated =>
          cases found
          have seen : action.name ∈ before.map (·.name) := by simpa using repeated
          have counted := List.one_le_count_iff.mpr seen
          refine .repeatedAction held ?_
          rw [List.map_append, List.count_append, List.map_cons, List.count_cons_self]
          omega
      split at found
      · next unmarked =>
          cases found
          obtain ⟨identifier, asked, blank⟩ := List.any_eq_true.mp unmarked
          exact .blankIdentifier held listed asked blank
      · have moved : before ++ action :: rest = (before ++ [action]) ++ rest := by simp
        have names : action.name :: (before.map (·.name)).reverse =
            ((before ++ [action]).map (·.name)).reverse := by simp
        rw [moved] at held
        rw [names] at found
        exact ih held found

theorem violates_of_collectionDefect? (configured : config.collections.find? name = some collection)
    (found : collection.defect? name = some defect) : config.Violates defect := by
  obtain ⟨target, -, inTarget⟩ := List.exists_of_findSome?_eq_some found
  obtain ⟨⟨verb, actions⟩, listed, reported⟩ := List.exists_of_findSome?_eq_some inTarget
  have held : config.HasActions name collection target verb actions :=
    ⟨configured, ByVerb.mem_toList.mp listed⟩
  split at reported
  · have whole : actions = [] ++ actions := rfl
    rw [whole] at held
    exact violates_of_actionDefect? held reported
  · next undeclared =>
      cases reported
      exact .undeclaredVerb held (by simpa using undeclared)

theorem violates_of_referenceDefect? (configured : config.collections.find? name = some collection)
    (found : config.referenceDefect? name collection = some defect) : config.Violates defect := by
  unfold referenceDefect? at found
  dsimp only at found
  split at found
  · next sub missing =>
      cases found
      have unknown := List.find?_some missing
      exact .unknownSubcollection configured (List.mem_of_find?_eq_some missing)
        (by simpa [Dict.contains] using unknown)
  · split at found
    · cases found
    · next checked =>
        obtain ⟨typeName, kept, rfl⟩ := Option.map_eq_some_iff.mp found
        obtain ⟨typed, unknown⟩ := Option.filter_eq_some_iff.mp kept
        exact .unknownType configured typed (by simpa using checked)
          (by simpa [Dict.contains] using unknown)

/-- A reported defect is there. -/
theorem violates_of_defect? (found : config.defect? = some defect) : config.Violates defect := by
  unfold defect? at found
  dsimp only at found
  rw [Option.or_assoc, Option.or_eq_some_iff, Option.or_eq_some_iff] at found
  rcases found with version | ⟨-, reference | ⟨-, action⟩⟩
  · obtain ⟨version, untagged, rfl⟩ := Option.map_eq_some_iff.mp version
    have refused := List.find?_some untagged
    exact .invalidVersion (List.mem_of_find?_eq_some untagged) (by simpa using refused)
  · obtain ⟨⟨name, collection⟩, listed, reported⟩ := List.exists_of_findSome?_eq_some reference
    exact violates_of_referenceDefect? (Dict.find?_eq_some_iff.mpr listed) reported
  · obtain ⟨⟨name, collection⟩, listed, reported⟩ := List.exists_of_findSome?_eq_some action
    exact violates_of_collectionDefect? (Dict.find?_eq_some_iff.mpr listed) reported

/-- A configuration with a defect breaks a rule. -/
theorem not_isSound_of_violates (violated : config.Violates defect) : ¬ config.IsSound := by
  intro sound
  cases violated with
  | invalidVersion listed untagged =>
      rw [sound.versions _ listed] at untagged
      cases untagged
  | unknownSubcollection configured listed unknown =>
      obtain ⟨other, known⟩ := sound.subcollections _ _ configured _ listed
      rw [known] at unknown
      cases unknown
  | unknownType configured typed checked unknown =>
      obtain ⟨type, known⟩ := sound.types checked _ _ configured _ typed
      rw [known] at unknown
      cases unknown
  | undeclaredVerb held undeclared => exact undeclared (sound.verbs _ _ _ _ _ held)
  | unnamedAction held listed blank =>
      rw [sound.names _ _ _ _ _ held _ listed] at blank
      cases blank
  | repeatedAction held twice =>
      have once := List.nodup_iff_count_le_one.mp (sound.distinct _ _ _ _ _ held)
      exact absurd (Nat.le_trans twice (once _)) (by decide)
  | blankIdentifier held listed asked blank =>
      rw [sound.identifiers _ _ _ _ _ held _ listed _ asked] at blank
      cases blank

theorem isSound_of_defect? (accepted : config.defect? = none) : config.IsSound := by
  simp only [defect?, Option.or_eq_none_iff, List.findSome?_eq_none_iff] at accepted
  obtain ⟨⟨versions, references⟩, actions⟩ := accepted
  have referred {name : String} {collection : CollectionConfig}
      (configured : config.collections.find? name = some collection) :=
    (config.referenceDefect?_eq_none_iff name collection).mp
      (references _ (Dict.find?_eq_some_iff.mp configured))
  have declared {name : String} {collection : CollectionConfig} {target : Target} {verb : Verb}
      {listed : List ActionConfig}
      (held : config.HasActions name collection target verb listed) :=
    (CollectionConfig.defect?_eq_none_iff name collection).mp
      (actions _ (Dict.find?_eq_some_iff.mp held.configured)) _ _ _ held.held
  refine ⟨?_, ?_, ?_, ?_, ?_, ?_, ?_⟩
  · intro version listed
    rw [versionDefect?, Option.map_eq_none_iff, List.find?_eq_none] at versions
    simpa using versions version listed
  · intro name collection configured
    exact (referred configured).1
  · intro checked name collection configured
    exact (referred configured).2 checked
  · intro name collection target verb listed held
    exact (declared held).1
  · intro name collection target verb listed held action member
    exact ((declared held).2.1 action member).1
  · intro name collection target verb listed held
    exact (declared held).2.2
  · intro name collection target verb listed held action member
    exact ((declared held).2.1 action member).2

end Config

/-- Among actions with distinct names, each is the only one of its name. -/
theorem ActionConfig.filter_name {actions : List ActionConfig}
    (distinct : (actions.map (·.name)).Nodup) {action : ActionConfig} (listed : action ∈ actions) :
    actions.filter (·.name == action.name) = [action] := by
  obtain ⟨before, after, rfl⟩ := List.append_of_mem listed
  rw [List.map_append, List.map_cons, List.nodup_append, List.nodup_cons] at distinct
  obtain ⟨-, ⟨fresh, -⟩, apart⟩ := distinct
  apply List.filter_eq_cons_iff.mpr
  refine ⟨before, after, rfl, ?_, by simp, List.filter_eq_nil_iff.mpr ?_⟩
  · intro other earlier
    have differs := apart other.name (List.mem_map_of_mem earlier) action.name List.mem_cons_self
    simpa using differs
  · intro other later
    have differs : other.name ≠ action.name :=
      fun same => fresh (List.mem_map.mpr ⟨other, later, same⟩)
    simpa using differs

theorem ByVerb.pairwise_toList {α : Type} (table : ByVerb α) :
    table.toList.Pairwise fun first second => first.1 ≠ second.1 := by
  refine List.Pairwise.filterMap _ ?_ Verb.nodup_all
  intro first second apart entry found other again
  obtain ⟨value, -, rfl⟩ := Option.map_eq_some_iff.mp found
  obtain ⟨held, -, rfl⟩ := Option.map_eq_some_iff.mp again
  exact apart

namespace ActionTable

variable {table : ActionTable}

theorem mem_declared {verb : Verb} {spec : ActionSpec} :
    (verb, spec) ∈ table.declared ↔ ∃ specs, table.find? verb = some specs ∧ spec ∈ specs := by
  simp only [declared, List.mem_flatMap, List.mem_map, Prod.mk.injEq, Prod.exists]
  constructor
  · rintro ⟨other, specs, held, _, listed, rfl, rfl⟩
    exact ⟨specs, ByVerb.mem_toList.mp held, listed⟩
  · rintro ⟨specs, held, listed⟩
    exact ⟨verb, specs, ByVerb.mem_toList.mpr held, spec, listed, rfl, rfl⟩

/-- Where names are distinct under each verb, no action is enumerated twice. -/
theorem nodup_declared
    (distinct : ∀ verb specs, table.find? verb = some specs → (specs.map (·.name)).Nodup) :
    table.declared.Nodup := by
  rw [declared, List.nodup_flatMap]
  constructor
  · rintro ⟨verb, specs⟩ held
    have unrepeated := (distinct verb specs (ByVerb.mem_toList.mp held)).of_map
    exact unrepeated.map fun first second same => congrArg Prod.snd same
  · refine table.pairwise_toList.imp ?_
    intro first second apart
    apply List.disjoint_left.mpr
    intro entry inFirst inSecond
    obtain ⟨spec, -, rfl⟩ := List.mem_map.mp inFirst
    obtain ⟨other, -, same⟩ := List.mem_map.mp inSecond
    exact apart (congrArg Prod.fst same).symm

end ActionTable

namespace Collection

variable {config : Config} {name : String} {source : CollectionConfig}

theorem find?_actions_ofConfig (target : Target) (verb : Verb) :
    ((ofConfig name source).actions.at target).find? verb =
      ((source.actions.at target).find? verb).map (·.map ActionSpec.ofConfig) := by
  simp only [ofConfig, ByTarget.at_map, ByVerb.find?_map]

theorem action?_ofConfig (target : Target) (verb : Verb) (asked : String) :
    ((ofConfig name source).actions.at target).action? verb asked =
      ((source.actions.at target).find? verb).bind fun actions =>
        (actions.find? (·.name == asked)).map ActionSpec.ofConfig := by
  rw [ActionTable.action?, find?_actions_ofConfig, Option.bind_map]
  congr 1
  funext actions
  exact List.find?_map

/-- A collection of a sound configuration is rendered with each of its actions. -/
theorem renders_ofConfig (sound : config.IsSound)
    (configured : config.collections.find? name = some source) :
    (ofConfig name source).Renders name source := by
  have distinct (target : Target) (verb : Verb) (actions : List ActionConfig)
      (held : (source.actions.at target).find? verb = some actions) :
      (actions.map (·.name)).Nodup :=
    sound.distinct name source target verb actions ⟨configured, held⟩
  refine ⟨rfl, ?_, ?_, ?_, ?_⟩
  · intro target verb actions held action listed
    have only := ActionConfig.filter_name (distinct target verb actions held) listed
    refine ⟨only, .ofConfig action, ?_, ActionSpec.renders_iff.mpr rfl⟩
    rw [action?_ofConfig, held, Option.bind_some, ← List.head?_filter, only]
    rfl
  · intro target verb asked absent
    rw [action?_ofConfig]
    cases held : (source.actions.at target).find? verb with
    | none => rfl
    | some actions =>
        have unnamed : actions.find? (·.name == asked) = none := by
          apply List.find?_eq_none.mpr
          intro action listed
          simpa using absent actions held action listed
        rw [Option.bind_some, unnamed]
        rfl
  · intro target
    apply ActionTable.nodup_declared
    intro verb specs held
    rw [find?_actions_ofConfig, Option.map_eq_some_iff] at held
    obtain ⟨actions, held, rfl⟩ := held
    simpa [Function.comp_def, ActionSpec.ofConfig] using distinct target verb actions held
  · intro target verb spec
    simp only [ActionTable.mem_declared, find?_actions_ofConfig, Option.map_eq_some_iff,
      ActionSpec.renders_iff]
    constructor
    · rintro ⟨specs, ⟨actions, held, rfl⟩, listed⟩
      obtain ⟨action, member, rfl⟩ := List.mem_map.mp listed
      exact ⟨actions, held, action, member, rfl⟩
    · rintro ⟨actions, held, action, member, rfl⟩
      exact ⟨_, ⟨actions, held, rfl⟩, List.mem_map_of_mem member⟩

end Collection

namespace Catalogue

variable {config : Config} {catalogue : Catalogue}

theorem renders_of_ofConfig (accepted : ofConfig config = .ok catalogue) :
    catalogue.Renders config := by
  obtain ⟨sound, rfl⟩ := ofConfig_eq_ok.mp accepted
  refine ⟨rfl, by simp [Dict.mapEntries, Function.comp_def], ?_⟩
  intro name source configured
  refine ⟨.ofConfig name source, ?_, ?_⟩
  · rw [find?_of_ofConfig accepted, configured, Option.map_some]
  · exact Collection.renders_ofConfig (Config.isSound_of_defect? sound) configured

/-- A configuration is accepted exactly when it obeys every rule. Its catalogue then offers what is
configured, each action once, and otherwise the reported defect is there. -/
theorem ofConfig_validates (config : Config) :
    ((∃ catalogue, ofConfig config = .ok catalogue) ↔ config.IsSound) ∧
      (∀ catalogue, ofConfig config = .ok catalogue → catalogue.Renders config) ∧
      ∀ defect, ofConfig config = .error defect → config.Violates defect := by
  refine ⟨⟨?_, ?_⟩, ?_, ?_⟩
  · rintro ⟨catalogue, accepted⟩
    exact Config.isSound_of_defect? (ofConfig_eq_ok.mp accepted).1
  · intro sound
    cases defective : config.defect? with
    | none => exact ⟨_, ofConfig_eq_ok.mpr ⟨defective, rfl⟩⟩
    | some defect =>
        exact absurd sound (Config.not_isSound_of_violates (Config.violates_of_defect? defective))
  · intro catalogue accepted
    exact renders_of_ofConfig accepted
  · intro defect refused
    exact Config.violates_of_defect? (ofConfig_eq_error.mp refused)

end Catalogue

/-- The small interface, where tags declare one action twice. -/
def Config.repeatedTags : Config where
  __ := Config.machines
  collections := .ofList [("machines", .machines), ("tags", { CollectionConfig.tags with
    actions := ⟨.empty, .empty, ByVerb.empty.set .post [.assign, .assign], .empty⟩ })]

theorem Catalogue.ofConfig_validates_machines :
    Config.machines.IsSound ∧ Catalogue.machines.Renders .machines ∧
      ofConfig .repeatedTags = .error (.repeatedAction "tags" .subcollection .post "assign") ∧
      Config.repeatedTags.Violates (.repeatedAction "tags" .subcollection .post "assign") := by
  obtain ⟨sound, renders, -⟩ := ofConfig_validates .machines
  have refused : ofConfig .repeatedTags =
      .error (.repeatedAction "tags" .subcollection .post "assign") := by
    decide +kernel
  obtain ⟨-, -, violates⟩ := ofConfig_validates .repeatedTags
  exact ⟨sound.mp ⟨_, ofConfig_machines⟩, renders _ ofConfig_machines, refused,
    violates _ refused⟩

end ResourceRouter
