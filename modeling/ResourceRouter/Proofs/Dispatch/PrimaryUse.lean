import ResourceRouter.Proofs.Dispatch.Authorization

set_option autoImplicit false

/-!
Collections that are only subcollections of others. Their use as the primary collection of a request
is checked where the request names no subcollection; one that they list themselves leads past the
check.
-/

namespace ResourceRouter.Dispatcher

section PrimaryUse

variable {config : Config} {catalogue : Catalogue} {address : Address} {collection : String}
variable {primary : Collection}

/-- A collection of subcollection use only leads nowhere but to the subcollections that it lists. -/
theorem involved_subcollectionOnly (registered : catalogue.find? collection = some primary)
    (nestedUse : .subcollection ∈ primary.options) (noPrimaryUse : .collection ∉ primary.options)
    {subcollection : Option String}
    (unlisted : ∀ name ∈ subcollection, name ∉ primary.subcollections) :
    ∃ fault, involved catalogue collection subcollection = .error fault := by
  cases settled : involved catalogue collection subcollection with
  | error fault => exact ⟨fault, rfl⟩
  | ok entries =>
      obtain ⟨entry, target⟩ := entries
      have reached := involved_eq_ok.mp settled
      obtain rfl : primary = entry :=
        Option.some.inj (registered.symm.trans reached.registered_primary)
      cases reached with
      | direct _ primaryUse => exact absurd ⟨nestedUse, noPrimaryUse⟩ primaryUse
      | nested _ _ listed => exact absurd listed (unlisted _ rfl)

/-- A collection that is only a subcollection of others refuses every request in which it comes first,
as not supported, exactly when the request names no subcollection that the collection lists. -/
theorem resolve_subcollectionOnly (accepted : Catalogue.ofConfig config = .ok catalogue)
    (handlers : HandlerTable) (named : address.collection = some collection)
    (registered : catalogue.find? collection = some primary)
    (nestedUse : .subcollection ∈ primary.options) (noPrimaryUse : .collection ∉ primary.options) :
    (∀ verb explicit permissions, ∃ fault,
      (⟨catalogue, handlers⟩ : Dispatcher).resolve verb address explicit permissions =
          .error fault ∧
        fault.kind = .unsupportedAction) ↔
      ∀ name ∈ address.subcollection, name ∉ primary.subcollections := by
  constructor
  · intro refused name through listed
    obtain ⟨target, found⟩ := Catalogue.exists_subcollection accepted registered listed
    have reached : Reaches catalogue collection address.subcollection primary target := by
      rw [Option.mem_def.mp through]
      exact .nested registered found listed
    obtain ⟨fault, failed, -⟩ := refused .options none .nothing
    rw [resolve_options _ named, involved_eq_ok.mpr reached] at failed
    cases failed
  · intro unlisted verb explicit permissions
    obtain ⟨fault, failed⟩ :=
      involved_subcollectionOnly registered nestedUse noPrimaryUse unlisted
    refine ⟨fault, resolve_of_involved named failed, ?_⟩
    rcases involved_eq_error failed with rfl | rfl | ⟨name, rfl⟩ <;> rfl

theorem resolve_subcollectionOnly_tags :
    Catalogue.ofConfig .machines = .ok .machines ∧
      ∀ verb explicit permissions, ∃ fault,
        (⟨.machines, .ofCatalogue .machines⟩ : Dispatcher).resolve verb
            ⟨some "tags", some "3", some "machines", some "7", some "v1"⟩ explicit permissions =
            .error fault ∧
          fault.kind = .unsupportedAction := by
  have registered : Catalogue.machines.find? "tags" = some (.ofConfig "tags" .tags) := by
    decide +kernel
  have named : (⟨some "tags", some "3", some "machines", some "7", some "v1"⟩ : Address).collection =
      some "tags" := rfl
  refine ⟨Catalogue.ofConfig_machines, (resolve_subcollectionOnly Catalogue.ofConfig_machines
    (.ofCatalogue .machines) named registered (by decide) (by decide)).mpr fun name _ listed => ?_⟩
  cases listed

end PrimaryUse

end ResourceRouter.Dispatcher

namespace ResourceRouter

/-- Tags that bear notes. -/
def CollectionConfig.notedTags : CollectionConfig where
  __ := CollectionConfig.tags
  subcollections := ["notes"]

/-- Notes, which anyone reads through what bears them. -/
def CollectionConfig.notes : CollectionConfig where
  __ := CollectionConfig.blank
  verbs := [.get]
  options := [.subcollection]
  actions := ⟨.empty, .empty, ByVerb.empty.set .get [⟨"read", none, false, none⟩], .empty⟩

/-- An interface on which one collection of subcollection use only lists another. -/
def Config.notes : Config where
  __ := Config.standard
  collections := .ofList [("tags", .notedTags), ("notes", .notes)]

def Catalogue.notes : Catalogue where
  collections := Config.notes.collections.mapEntries Collection.ofConfig
  supportedVersions := []

/-- The notes of a tag are read with the tag in the first place, though tags have no such use. -/
theorem Dispatcher.resolve_notes :
    Catalogue.ofConfig .notes = .ok .notes ∧
      (∃ tags, Catalogue.notes.find? "tags" = some tags ∧ .subcollection ∈ tags.options ∧
        .collection ∉ tags.options) ∧
      (ofCatalogue .notes).resolve .get ⟨some "tags", some "1", some "notes", none, none⟩ none
          .nothing =
        .ok ⟨"notes_read_resource", "read", some "tags", .subcollection, none, none⟩ := by
  refine ⟨by decide +kernel, ⟨.ofConfig "tags" .notedTags, ?_, by decide, by decide⟩,
    Stage.toOption_eq_some.mp ?_⟩
  · decide +kernel
  · decide +kernel

end ResourceRouter
