import ResourceRouter.Catalogue.Basic
import ResourceRouter.Catalogue.Defect

set_option autoImplicit false

/-!
The catalogue of a configuration without defects.
-/

namespace ResourceRouter

def ActionSpec.ofConfig (action : ActionConfig) : ActionSpec :=
  ⟨action.name, action.identifiers, action.disabled, action.hook⟩

def Collection.ofConfig (name : String) (collection : CollectionConfig) : Collection where
  name := name
  description := collection.description
  typeName := collection.typeName
  verbs := collection.verbs
  options := collection.options
  identifyingAttributes := collection.identifyingAttributes
  subcollections := collection.subcollections
  handlers := collection.handlers
  actions := collection.actions.map (·.map (·.map ActionSpec.ofConfig))

/-- The catalogue of a configuration, or its first defect. -/
def Catalogue.ofConfig (config : Config) : Except Defect Catalogue :=
  match config.defect? with
  | some defect => .error defect
  | none => .ok ⟨config.collections.mapEntries Collection.ofConfig, config.supportedVersions⟩

end ResourceRouter
