import ResourceRouter.Catalogue.Build
import Mathlib.Data.List.Nodup

set_option autoImplicit false

/-!
What an accepted configuration says about its catalogue: every entry stands under its own name, and
the actions under one verb have distinct names, so that a name finds the only action that has it.
-/

namespace ResourceRouter

/-- Where every key stands once, a search by key finds just the entry that is there. -/
theorem lookup_eq_some_iff_mem {κ α : Type} [BEq κ] [LawfulBEq κ] {entries : List (κ × α)}
    (distinct : entries.Pairwise fun first second => first.1 ≠ second.1) {key : κ} {value : α} :
    entries.lookup key = some value ↔ (key, value) ∈ entries := by
  rw [List.lookup_eq_some_iff]
  constructor
  · rintro ⟨before, after, rfl, -⟩
    simp
  · intro listed
    obtain ⟨before, after, rfl⟩ := List.append_of_mem listed
    refine ⟨before, after, rfl, fun other earlier => ?_⟩
    have apart := (List.pairwise_append.mp distinct).2.2 other earlier _ List.mem_cons_self
    simpa using apart.symm

namespace Dict

variable {α β : Type}

theorem find?_eq_some_iff {dict : Dict α} {name : String} {value : α} :
    dict.find? name = some value ↔ (name, value) ∈ dict.entries :=
  lookup_eq_some_iff_mem (dict.ascending.imp String.ne_of_lt)

theorem mem_values {dict : Dict α} {value : α} :
    value ∈ dict.values ↔ ∃ name, dict.find? name = some value := by
  simp only [values, find?_eq_some_iff, List.mem_map, Prod.exists, exists_eq_right]

theorem find?_mapEntries (transform : String → α → β) (dict : Dict α) (name : String) :
    (dict.mapEntries transform).find? name = (dict.find? name).map (transform name) := by
  simp only [find?, mapEntries]
  induction dict.entries with
  | nil => rfl
  | cons entry rest ih =>
      obtain ⟨other, value⟩ := entry
      by_cases same : name = other
      · subst same
        simp
      · have differs : (name == other) = false := by simpa using same
        simp only [List.map_cons, List.lookup_cons, differs, ih]

end Dict

theorem Verb.mem_all (verb : Verb) : verb ∈ Verb.all := by
  cases verb <;> decide

theorem ByVerb.mem_toList {α : Type} {table : ByVerb α} {verb : Verb} {value : α} :
    (verb, value) ∈ table.toList ↔ table.find? verb = some value := by
  simp only [ByVerb.toList, List.mem_filterMap, Option.map_eq_some_iff, Prod.mk.injEq]
  constructor
  · rintro ⟨other, -, held, found, rfl, rfl⟩
    exact found
  · intro found
    exact ⟨verb, verb.mem_all, value, found, rfl, rfl⟩

/-- The action has a name, and so has every permission that it asks for. -/
def ActionConfig.IsNamed (action : ActionConfig) : Prop :=
  Text.isBlankText action.name = false ∧
    ∀ identifier ∈ action.identifiers, Text.isBlankText identifier = false

namespace CollectionConfig

/-- The scan of one list of actions, after those with the names `seen`, finds no defect exactly when
the actions have names that are distinct among each other and from the names before. -/
theorem actionDefect?_eq_none_iff (name : String) (target : Target) (verb : Verb)
    (seen : List String) (actions : List ActionConfig) :
    actionDefect? name target verb seen actions = none ↔
      (∀ action ∈ actions, action.IsNamed ∧ action.name ∉ seen) ∧
        (actions.map (·.name)).Nodup := by
  induction actions generalizing seen with
  | nil => simp [actionDefect?]
  | cons action rest ih =>
      rw [actionDefect?]
      by_cases blank : Text.isBlankText action.name = true
      · simp [blank, ActionConfig.IsNamed]
      by_cases repeated : action.name ∈ seen
      · simp [blank, repeated]
      by_cases unmarked : action.identifiers.any Text.isBlankText = true
      · have unnamed : ¬ action.IsNamed := by
          rintro ⟨-, marked⟩
          obtain ⟨identifier, listed, empty⟩ := List.any_eq_true.mp unmarked
          simp [marked identifier listed] at empty
        simp [blank, repeated, unmarked, unnamed]
      · have named : action.IsNamed := by
          refine ⟨by simpa using blank, fun identifier listed => ?_⟩
          by_contra empty
          exact unmarked (List.any_eq_true.mpr ⟨identifier, listed, by simpa using empty⟩)
        rw [if_neg blank, if_neg (by simpa using repeated), if_neg unmarked, ih,
          List.forall_mem_cons, List.map_cons, List.nodup_cons]
        constructor
        · rintro ⟨others, distinct⟩
          refine ⟨⟨⟨named, repeated⟩, fun other later => ?_⟩, fun again => ?_, distinct⟩
          · exact ⟨(others other later).1, fun before =>
              (others other later).2 (List.mem_cons_of_mem _ before)⟩
          · obtain ⟨other, later, same⟩ := List.mem_map.mp again
            exact (others other later).2 (same ▸ List.mem_cons_self)
        · rintro ⟨⟨-, others⟩, fresh, distinct⟩
          refine ⟨fun other later => ⟨(others other later).1, fun before => ?_⟩, distinct⟩
          rcases List.mem_cons.mp before with same | before
          · exact fresh (List.mem_map.mpr ⟨other, later, same⟩)
          · exact (others other later).2 before

/-- A collection has no defect exactly when every list of actions stands under a verb of the
collection and has none. -/
theorem defect?_eq_none_iff (name : String) (collection : CollectionConfig) :
    collection.defect? name = none ↔
      ∀ target verb actions, (collection.actions.at target).find? verb = some actions →
        verb ∈ collection.verbs ∧ (∀ action ∈ actions, action.IsNamed) ∧
          (actions.map (·.name)).Nodup := by
  have listed (target : Target) : target ∈ Target.all := by cases target <;> decide
  simp only [defect?, List.findSome?_eq_none_iff, listed, forall_const, Prod.forall,
    ByVerb.mem_toList]
  refine forall_congr' fun target => forall_congr' fun verb => forall_congr' fun actions => ?_
  refine imp_congr_right fun _ => ?_
  by_cases declared : verb ∈ collection.verbs
  · simp [declared, actionDefect?_eq_none_iff]
  · simp [declared]

end CollectionConfig

/-- A collection refers to nothing unknown exactly when its subcollections are configured and so is
its type, where types are. -/
theorem Config.referenceDefect?_eq_none_iff (config : Config) (name : String)
    (collection : CollectionConfig) :
    config.referenceDefect? name collection = none ↔
      (∀ sub ∈ collection.subcollections, ∃ other, config.collections.find? sub = some other) ∧
        (config.types.isEmpty = false → ∀ typeName ∈ collection.typeName,
          ∃ type, config.types.find? typeName = some type) := by
  rw [referenceDefect?]
  cases missing : collection.subcollections.find? fun sub => !config.collections.contains sub with
  | some sub =>
      have listed := List.mem_of_find?_eq_some missing
      have unknown : config.collections.find? sub = none := by
        simpa [Dict.contains] using List.find?_some missing
      refine iff_of_false (by simp) fun sound => ?_
      obtain ⟨other, known⟩ := sound.1 sub listed
      rw [unknown] at known
      cases known
  | none =>
      have known : ∀ sub ∈ collection.subcollections,
          ∃ other, config.collections.find? sub = some other := by
        intro sub listed
        have contained := List.find?_eq_none.mp missing sub listed
        exact Option.ne_none_iff_exists'.mp (by simpa [Dict.contains] using contained)
      rw [and_iff_right known]
      cases config.types.isEmpty with
      | true => simp
      | false =>
          cases collection.typeName with
          | none => simp
          | some typeName => simp [Dict.contains, ← Option.ne_none_iff_exists']

/-- An action for the holders of either of two permissions, behind a validation. -/
def ActionConfig.assign : ActionConfig :=
  ⟨"assign", some (.many ["tag_owner", "tag_admin"]), false, some "check_tag"⟩

/-- Tags, which are only reached through what bears them. -/
def CollectionConfig.tags : CollectionConfig where
  __ := CollectionConfig.blank
  typeName := some "Tag"
  verbs := [.get, .post]
  options := [.subcollection]
  actions := ⟨.empty, .empty, ByVerb.empty.set .post [.assign], .empty⟩

/-- Machines, which bear tags. -/
def CollectionConfig.machines : CollectionConfig where
  __ := CollectionConfig.blank
  verbs := [.get]
  options := [.collection]
  subcollections := ["tags"]

/-- A small interface on which results are shown. -/
def Config.machines : Config where
  __ := Config.standard
  collections := .ofList [("machines", .machines), ("tags", .tags)]
  types := .ofList [("Tag", { TypeSchema.blank with attributes := .ofList [("name", .string)] })]

/-- The catalogue of the small interface. -/
def Catalogue.machines : Catalogue where
  collections := Config.machines.collections.mapEntries Collection.ofConfig
  supportedVersions := []

namespace Catalogue

variable {config : Config} {catalogue : Catalogue} {name : String} {collection : Collection}

theorem ofConfig_eq_ok :
    ofConfig config = .ok catalogue ↔ config.defect? = none ∧
      (⟨config.collections.mapEntries Collection.ofConfig, config.supportedVersions⟩ : Catalogue) =
        catalogue := by
  unfold ofConfig
  split <;> simp_all

theorem ofConfig_eq_error {defect : Defect} :
    ofConfig config = .error defect ↔ config.defect? = some defect := by
  unfold ofConfig
  split <;> simp_all

theorem find?_of_ofConfig (accepted : ofConfig config = .ok catalogue) (name : String) :
    catalogue.find? name = (config.collections.find? name).map (Collection.ofConfig name) := by
  obtain ⟨-, rfl⟩ := ofConfig_eq_ok.mp accepted
  exact Dict.find?_mapEntries _ _ _

/-- An entry bears the name under which it stands. -/
theorem name_of_find? (accepted : ofConfig config = .ok catalogue)
    (found : catalogue.find? name = some collection) : collection.name = name := by
  rw [find?_of_ofConfig accepted, Option.map_eq_some_iff] at found
  obtain ⟨source, -, rfl⟩ := found
  rfl

/-- An entry comes from a configured collection without defects. -/
theorem exists_source (accepted : ofConfig config = .ok catalogue)
    (found : catalogue.find? name = some collection) :
    ∃ source : CollectionConfig, Collection.ofConfig name source = collection ∧
      config.referenceDefect? name source = none ∧ source.defect? name = none := by
  obtain ⟨sound, -⟩ := ofConfig_eq_ok.mp accepted
  rw [find?_of_ofConfig accepted, Option.map_eq_some_iff] at found
  obtain ⟨source, configured, rfl⟩ := found
  simp only [Config.defect?, Option.or_eq_none_iff, List.findSome?_eq_none_iff] at sound
  have held := Dict.find?_eq_some_iff.mp configured
  exact ⟨source, rfl, sound.1.2 _ held, sound.2 _ held⟩

/-- A subcollection that an entry lists is a collection of the catalogue. -/
theorem exists_subcollection (accepted : ofConfig config = .ok catalogue)
    (found : catalogue.find? name = some collection) {subcollection : String}
    (listed : subcollection ∈ collection.subcollections) :
    ∃ entry, catalogue.find? subcollection = some entry := by
  obtain ⟨source, rfl, sound, -⟩ := exists_source accepted found
  obtain ⟨entry, held⟩ :=
    ((config.referenceDefect?_eq_none_iff name source).mp sound).1 subcollection listed
  exact ⟨_, by rw [find?_of_ofConfig accepted, held, Option.map_some]⟩

/-- The actions of an entry stand under its verbs, and those under one verb have distinct names. -/
theorem sound_actions (accepted : ofConfig config = .ok catalogue)
    (found : catalogue.find? name = some collection) {target : Target} {verb : Verb}
    {specs : List ActionSpec} (declared : (collection.actions.at target).find? verb = some specs) :
    verb ∈ collection.verbs ∧ (specs.map (·.name)).Nodup := by
  obtain ⟨source, rfl, -, sound⟩ := exists_source accepted found
  simp only [Collection.ofConfig, ByTarget.at_map, ByVerb.find?_map,
    Option.map_eq_some_iff] at declared
  obtain ⟨actions, held, rfl⟩ := declared
  obtain ⟨supported, -, distinct⟩ :=
    (CollectionConfig.defect?_eq_none_iff name source).mp sound _ _ _ held
  exact ⟨supported, by simpa [Function.comp_def, ActionSpec.ofConfig] using distinct⟩

theorem ofConfig_machines : ofConfig .machines = .ok .machines := by
  decide +kernel

/-- Among actions with distinct names, a search by name finds an action exactly when it is there. -/
theorem find?_name_eq_some_iff {specs : List ActionSpec} (distinct : (specs.map (·.name)).Nodup)
    {action : String} {spec : ActionSpec} :
    specs.find? (·.name == action) = some spec ↔ spec ∈ specs ∧ spec.name = action := by
  constructor
  · intro found
    exact ⟨List.mem_of_find?_eq_some found, by simpa using List.find?_some found⟩
  · rintro ⟨member, rfl⟩
    obtain ⟨first, hit⟩ : ∃ first, specs.find? (·.name == spec.name) = some first :=
      Option.isSome_iff_exists.mp (List.find?_isSome.mpr ⟨spec, member, beq_self_eq_true _⟩)
    have same : first.name = spec.name := by simpa using List.find?_some hit
    rw [hit, List.inj_on_of_nodup_map distinct (List.mem_of_find?_eq_some hit) member same]

/-- A verb and a name lead to the one action that is declared under them. -/
theorem action?_eq_some_iff (accepted : ofConfig config = .ok catalogue)
    (found : catalogue.find? name = some collection) {target : Target} {verb : Verb}
    {action : String} {spec : ActionSpec} :
    (collection.actions.at target).action? verb action = some spec ↔
      ∃ specs, (collection.actions.at target).find? verb = some specs ∧ spec ∈ specs ∧
        spec.name = action := by
  simp only [ActionTable.action?, Option.bind_eq_some_iff]
  refine exists_congr fun specs => and_congr_right fun declared => ?_
  exact find?_name_eq_some_iff (sound_actions accepted found declared).2

end Catalogue

end ResourceRouter
