import Mathlib.Data.List.Nodup
import ResourceRouter.Dispatch.HandlerTable
import ResourceRouter.Proofs.Catalogue.Entries

set_option autoImplicit false

/-!
The handlers in the conventional table. Registrations that follow one convention never disagree, so a
key has a handler exactly when some registration names it: neither the order of the registrations
nor a repetition shows in the table. What the registrations name is then read off the catalogue.
-/

namespace ResourceRouter

/-- The collection declares an action for a kind of target, under whatever verb. -/
def Collection.Offers (collection : Collection) (target : Target) (action : String) : Prop :=
  ∃ verb specs spec, (collection.actions.at target).find? verb = some specs ∧ spec ∈ specs ∧
    spec.name = action

theorem Collection.implements_iff {collection : Collection} {handler : String} :
    collection.implements handler = true ↔ ∀ names ∈ collection.handlers, handler ∈ names := by
  simp [implements, Option.all_eq_true]

/-- The handler that the convention names for a key. -/
def HandlerKey.convention (key : HandlerKey) : String :=
  conventionalName key.subcollection key.action

namespace HandlerTable

/-- The actions on the records of a collection and on those of the subcollections that it lists. -/
inductive Serves (catalogue : Catalogue) (primary : Collection) :
    Option String → Target → String → Prop where
  | own {target : Target} {action : String} (kind : target = .collection ∨ target = .resource)
      (offered : primary.Offers target action) : Serves catalogue primary none target action
  | nested {name : String} {declaring : Collection} {target : Target} {action : String}
      (listed : name ∈ primary.subcollections) (found : catalogue.find? name = some declaring)
      (kind : target = .subcollection ∨ target = .subresource)
      (offered : declaring.Offers target action) :
      Serves catalogue primary (some name) target action

/-- A key has the handler by convention: the collection serves the action, and the handler exists,
being listed where there is a list. -/
structure IsConventional (catalogue : Catalogue) (key : HandlerKey) (handler : String)
    (primary : Collection) : Prop where
  registered : catalogue.find? key.collection = some primary
  named : handler = key.convention
  implemented : ∀ names ∈ primary.handlers, handler ∈ names
  served : Serves catalogue primary key.subcollection key.target key.action

section Registration

variable {first second : HandlerTable} {key : HandlerKey} {handler : String}

theorem mem_entries {table : HandlerTable} :
    (key, handler) ∈ table.entries ↔ table.lookup key = some handler :=
  (lookup_eq_some_iff_mem table.distinct).symm

theorem nodup_entries (table : HandlerTable) : table.entries.Nodup :=
  table.distinct.imp fun apart same => apart (congrArg Prod.fst same)

/-- Tables with the same look-ups have the same size. -/
theorem size_eq_of_lookup (same : ∀ key, first.lookup key = second.lookup key) :
    first.size = second.size := by
  have members : ∀ entry, entry ∈ first.entries ↔ entry ∈ second.entries := by
    rintro ⟨key, handler⟩
    rw [mem_entries, mem_entries, same]
  exact ((List.perm_ext_iff_of_nodup first.nodup_entries second.nodup_entries).mpr
    members).length_eq

/-- Registrations by the convention leave every key with its conventional handler, if one of them
names the key, and otherwise with what it had. -/
theorem lookup_foldl_register {entries : List HandlerEntry}
    (agree : ∀ entry ∈ entries, entry.2 = entry.1.convention) (table : HandlerTable)
    (key : HandlerKey) :
    (entries.foldl (fun table entry => table.register entry.1 entry.2) table).lookup key =
      if key ∈ entries.map (·.1) then some key.convention else table.lookup key := by
  induction entries generalizing table with
  | nil => rfl
  | cons entry rest ih =>
      have follows := agree entry List.mem_cons_self
      rw [List.foldl_cons, ih (fun later listed => agree later (List.mem_cons_of_mem _ listed)),
        lookup_register, List.map_cons]
      -- The later registrations decide first; this one counts only where none of them names the key.
      by_cases later : key ∈ rest.map (·.1)
      · simp only [later, List.mem_cons, or_true, ↓reduceIte]
      · by_cases same : key = entry.1
        · simp only [same, follows, List.mem_cons, true_or, ↓reduceIte, ite_self]
        · simp only [later, same, List.mem_cons, or_self, ↓reduceIte]

theorem lookup_ofEntries {entries : List HandlerEntry}
    (agree : ∀ entry ∈ entries, entry.2 = entry.1.convention) :
    (ofEntries entries).lookup key = some handler ↔ (key, handler) ∈ entries := by
  rw [ofEntries, lookup_foldl_register agree]
  constructor
  · intro found
    split at found
    · next named =>
        obtain ⟨⟨other, own⟩, listed, rfl⟩ := List.mem_map.mp named
        rw [← agree _ listed] at found
        cases found
        exact listed
    · cases found
  · intro listed
    have named : key ∈ entries.map (·.1) := List.mem_map.mpr ⟨_, listed, rfl⟩
    rw [if_pos named, ← agree _ listed]

end Registration

/-- Rounds through a catalogue, each in an order of its own: over the collections, over the
subcollections of a collection, and for it or one of those over kinds of target and verbs. A round may
come past the same place more than once. -/
structure Rounds where
  collections : List Collection
  subcollections : Collection → List String
  targets : Collection → Option String → List Target
  verbs : Collection → Option String → Target → List Verb

namespace Rounds

/-- The rounds of the catalogue itself. -/
def standard (catalogue : Catalogue) : Rounds where
  collections := catalogue.collections.values
  subcollections := Collection.subcollections
  targets _ subcollection :=
    if subcollection.isSome then [.subcollection, .subresource] else [.collection, .resource]
  verbs _ _ _ := Verb.all

variable (rounds : Rounds) (catalogue : Catalogue)

/-- What is registered for the actions of one collection, under the one that is asked for. -/
def actionEntries (primary : Collection) (subcollection : Option String)
    (declaring : Collection) : List HandlerEntry :=
  (rounds.targets primary subcollection).flatMap fun target =>
    (rounds.verbs primary subcollection target).flatMap fun verb =>
      (((declaring.actions.at target).find? verb).getD []).map fun spec =>
        (⟨primary.name, subcollection, target, spec.name⟩,
          HandlerKey.conventionalName subcollection spec.name)

/-- What is registered for a collection, its subcollections included. -/
def collectionEntries (primary : Collection) : List HandlerEntry :=
  let own := rounds.actionEntries primary none primary
  let nested := (rounds.subcollections primary).flatMap fun name =>
    ((catalogue.find? name).map (rounds.actionEntries primary (some name))).getD []
  (own ++ nested).filter fun entry => primary.implements entry.2

/-- The table that the rounds fill. -/
def table : HandlerTable :=
  ofEntries (rounds.collections.flatMap (rounds.collectionEntries catalogue))

/-- The rounds come past everything that there is to register, and past nothing else. -/
structure Covers : Prop where
  collections : ∀ primary,
    primary ∈ rounds.collections ↔ ∃ name, catalogue.find? name = some primary
  subcollections : ∀ primary name,
    name ∈ rounds.subcollections primary ↔ name ∈ primary.subcollections
  ownTargets : ∀ primary target,
    target ∈ rounds.targets primary none ↔ target = .collection ∨ target = .resource
  nestedTargets : ∀ primary name target,
    target ∈ rounds.targets primary (some name) ↔ target = .subcollection ∨ target = .subresource
  verbs : ∀ primary subcollection target verb, verb ∈ rounds.verbs primary subcollection target

theorem covers_standard : (standard catalogue).Covers catalogue where
  collections _ := Dict.mem_values
  subcollections _ _ := Iff.rfl
  ownTargets _ _ := by simp [standard]
  nestedTargets _ _ _ := by simp [standard]
  verbs _ _ _ := Verb.mem_all

theorem actionEntries_standard (primary declaring : Collection) (subcollection : Option String) :
    (standard catalogue).actionEntries primary subcollection declaring =
      conventionalEntries primary subcollection declaring
        ((standard catalogue).targets primary subcollection) := by
  rw [actionEntries, conventionalEntries]
  congr 1
  funext target
  simp only [ActionTable.declared, ByVerb.toList, List.filterMap_eq_flatMap_toList,
    List.flatMap_assoc, List.map_flatMap]
  congr 1
  funext verb
  cases (declaring.actions.at target).find? verb with
  | none => rfl
  | some specs => simp [Function.comp_def]

/-- The table of a catalogue is filled in its own rounds. -/
theorem table_standard : (standard catalogue).table catalogue = ofCatalogue catalogue := by
  rw [table, ofCatalogue]
  congr 2
  funext primary
  have nested (name : String) :
      (standard catalogue).actionEntries primary (some name) =
        fun declaring => conventionalEntries primary (some name) declaring
          [.subcollection, .subresource] :=
    funext fun declaring => actionEntries_standard catalogue primary declaring (some name)
  simp only [collectionEntries, entriesOf, nested, actionEntries_standard]
  rfl

variable {rounds catalogue} {primary declaring : Collection} {subcollection : Option String}
variable {key : HandlerKey} {handler : String}

theorem mem_actionEntries (covers : rounds.Covers catalogue) :
    (key, handler) ∈ rounds.actionEntries primary subcollection declaring ↔
      key.collection = primary.name ∧ key.subcollection = subcollection ∧
        key.target ∈ rounds.targets primary subcollection ∧
        declaring.Offers key.target key.action ∧ handler = key.convention := by
  obtain ⟨collection, own, target, action⟩ := key
  simp only [actionEntries, List.mem_flatMap, List.mem_map, Prod.mk.injEq, HandlerKey.mk.injEq,
    Collection.Offers, HandlerKey.convention]
  constructor
  · rintro ⟨kind, visited, verb, -, spec, listed, ⟨rfl, rfl, rfl, rfl⟩, rfl⟩
    cases declared : (declaring.actions.at kind).find? verb with
    | none => simp [declared] at listed
    | some specs =>
        rw [declared] at listed
        exact ⟨rfl, rfl, visited, ⟨verb, specs, spec, declared, listed, rfl⟩, rfl⟩
  · rintro ⟨rfl, rfl, visited, ⟨verb, specs, spec, declared, listed, rfl⟩, rfl⟩
    refine ⟨target, visited, verb, covers.verbs _ _ _ _, spec, ?_, ⟨rfl, rfl, rfl, rfl⟩, rfl⟩
    rw [declared]
    exact listed

theorem mem_collectionEntries (covers : rounds.Covers catalogue) :
    (key, handler) ∈ rounds.collectionEntries catalogue primary ↔
      key.collection = primary.name ∧ handler = key.convention ∧
        (∀ names ∈ primary.handlers, handler ∈ names) ∧
        Serves catalogue primary key.subcollection key.target key.action := by
  simp only [collectionEntries, List.mem_filter, List.mem_append, List.mem_flatMap,
    Collection.implements_iff, mem_actionEntries covers]
  constructor
  · rintro ⟨⟨filed, direct, visited, offered, named⟩ | ⟨name, visit, entered⟩, implemented⟩
    · refine ⟨filed, named, implemented, ?_⟩
      rw [direct]
      exact .own ((covers.ownTargets _ _).mp visited) offered
    · cases found : catalogue.find? name with
      | none => simp [found] at entered
      | some declaring =>
          rw [found, Option.map_some, Option.getD_some, mem_actionEntries covers] at entered
          obtain ⟨filed, under, visited, offered, named⟩ := entered
          refine ⟨filed, named, implemented, ?_⟩
          rw [under]
          exact .nested ((covers.subcollections _ _).mp visit) found
            ((covers.nestedTargets _ _ _).mp visited) offered
  · rintro ⟨filed, named, implemented, served⟩
    refine ⟨?_, implemented⟩
    obtain ⟨collection, subcollection, target, action⟩ := key
    cases served with
    | own kind offered =>
        exact .inl ⟨filed, rfl, (covers.ownTargets _ _).mpr kind, offered, named⟩
    | @nested name declaring _ _ listed found kind offered =>
        refine .inr ⟨name, (covers.subcollections _ _).mpr listed, ?_⟩
        rw [found, Option.map_some, Option.getD_some, mem_actionEntries covers]
        exact ⟨filed, rfl, (covers.nestedTargets _ _ _).mpr kind, offered, named⟩

variable {config : Config}

/-- Whatever the rounds, the table that they fill holds the conventional handlers. -/
theorem lookup_table (accepted : Catalogue.ofConfig config = .ok catalogue)
    (covers : rounds.Covers catalogue) :
    (rounds.table catalogue).lookup key = some handler ↔
      ∃ primary, IsConventional catalogue key handler primary := by
  have agree : ∀ entry ∈ rounds.collections.flatMap (rounds.collectionEntries catalogue),
      entry.2 = entry.1.convention := by
    rintro ⟨other, own⟩ registered
    obtain ⟨primary, -, entered⟩ := List.mem_flatMap.mp registered
    exact ((mem_collectionEntries covers).mp entered).2.1
  rw [table, lookup_ofEntries agree, List.mem_flatMap]
  constructor
  · rintro ⟨primary, visited, entered⟩
    obtain ⟨filed, named, implemented, served⟩ := (mem_collectionEntries covers).mp entered
    obtain ⟨name, registered⟩ := (covers.collections primary).mp visited
    rw [Catalogue.name_of_find? accepted registered] at filed
    exact ⟨primary, filed ▸ registered, named, implemented, served⟩
  · rintro ⟨primary, registered, named, implemented, served⟩
    -- The key holds the name that the collection is found by, the round its own: they are one.
    have filed := (Catalogue.name_of_find? accepted registered).symm
    exact ⟨primary, (covers.collections primary).mpr ⟨_, registered⟩,
      (mem_collectionEntries covers).mpr ⟨filed, named, implemented, served⟩⟩

end Rounds

variable {config : Config} {catalogue : Catalogue}

theorem lookup_ofCatalogue (accepted : Catalogue.ofConfig config = .ok catalogue)
    {key : HandlerKey} {handler : String} :
    (ofCatalogue catalogue).lookup key = some handler ↔
      ∃ primary, IsConventional catalogue key handler primary := by
  rw [← Rounds.table_standard]
  exact Rounds.lookup_table accepted (Rounds.covers_standard catalogue)

/-- What a collection serves has its conventional handler, if that exists. -/
theorem lookup_served (accepted : Catalogue.ofConfig config = .ok catalogue) {key : HandlerKey}
    {primary : Collection} (registered : catalogue.find? key.collection = some primary)
    (served : Serves catalogue primary key.subcollection key.target key.action) :
    (ofCatalogue catalogue).lookup key =
      if primary.implements key.convention then some key.convention else none := by
  split
  · next implemented =>
      exact (lookup_ofCatalogue accepted).mpr
        ⟨primary, registered, rfl, Collection.implements_iff.mp implemented, served⟩
  · next missing =>
      apply Option.eq_none_iff_forall_not_mem.mpr
      intro handler found
      obtain ⟨other, held⟩ := (lookup_ofCatalogue accepted).mp found
      obtain rfl : primary = other := Option.some.inj (registered.symm.trans held.registered)
      exact missing (held.named ▸ Collection.implements_iff.mpr held.implemented)

/-- The table of a catalogue holds the conventional handlers of what its collections serve, and
nothing else; filling it in other rounds changes neither its look-ups nor its size. -/
theorem ofCatalogue_conventional (accepted : Catalogue.ofConfig config = .ok catalogue) :
    (∀ key handler, (ofCatalogue catalogue).lookup key = some handler ↔
      ∃ primary, IsConventional catalogue key handler primary) ∧
    ∀ rounds : Rounds, rounds.Covers catalogue →
      (∀ key, (rounds.table catalogue).lookup key = (ofCatalogue catalogue).lookup key) ∧
        (rounds.table catalogue).size = (ofCatalogue catalogue).size := by
  refine ⟨fun key handler => lookup_ofCatalogue accepted, fun rounds covers => ?_⟩
  have same (key : HandlerKey) :
      (rounds.table catalogue).lookup key = (ofCatalogue catalogue).lookup key := by
    apply Option.ext
    intro handler
    rw [Rounds.lookup_table accepted covers, lookup_ofCatalogue accepted]
  exact ⟨same, size_eq_of_lookup same⟩

/-- The rounds of a catalogue the other way about, with every subcollection and verb seen twice. -/
def Rounds.reversed (catalogue : Catalogue) : Rounds where
  collections := catalogue.collections.values.reverse
  subcollections primary := primary.subcollections.reverse ++ primary.subcollections
  targets _ subcollection :=
    if subcollection.isSome then [.subresource, .subcollection] else [.resource, .collection]
  verbs _ _ _ := Verb.all.reverse ++ Verb.all

theorem Rounds.covers_reversed (catalogue : Catalogue) : (reversed catalogue).Covers catalogue where
  collections _ := List.mem_reverse.trans Dict.mem_values
  subcollections _ _ := by simp [reversed]
  ownTargets _ _ := by simp [reversed, or_comm]
  nestedTargets _ _ _ := by simp [reversed, or_comm]
  verbs _ _ _ verb := List.mem_append_right _ verb.mem_all

theorem ofCatalogue_conventional_machines :
    Catalogue.ofConfig .machines = .ok .machines ∧
      (Rounds.reversed .machines).Covers .machines ∧
      ((Rounds.reversed .machines).table .machines).lookup
        ⟨"machines", some "tags", .subcollection, "assign"⟩ = some "tags_assign_resource" ∧
      ((Rounds.reversed .machines).table .machines).size = (ofCatalogue .machines).size := by
  have covers := Rounds.covers_reversed .machines
  obtain ⟨conventional, rounds⟩ := ofCatalogue_conventional Catalogue.ofConfig_machines
  obtain ⟨same, size⟩ := rounds _ covers
  have found : Catalogue.machines.find? "tags" = some (.ofConfig "tags" .tags) := by
    decide +kernel
  have served : Serves .machines (.ofConfig "machines" .machines) (some "tags") .subcollection
      "assign" :=
    .nested (by decide) found (.inl rfl)
      ⟨.post, [.ofConfig .assign], .ofConfig .assign, rfl, List.mem_cons_self, rfl⟩
  refine ⟨Catalogue.ofConfig_machines, covers, ?_, size⟩
  rw [same, conventional]
  refine ⟨.ofConfig "machines" .machines, by decide +kernel, by decide, ?_, served⟩
  intro names listed
  cases listed

end HandlerTable

end ResourceRouter
