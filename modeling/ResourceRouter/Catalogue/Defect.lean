import ResourceRouter.Address.VersionTag
import ResourceRouter.Config.Basic

set_option autoImplicit false

/-!
Defects of a configuration that is well formed as a document: references to nothing, and actions
that cannot be told apart or asked for. The first defect in a fixed order of visits is reported.
-/

namespace ResourceRouter

/-- A defect and where it stands. -/
inductive Defect where
  | invalidVersion (version : String)
  | unknownSubcollection (collection subcollection : String)
  | unknownType (collection typeName : String)
  | undeclaredVerb (collection : String) (target : Target) (verb : Verb)
  | unnamedAction (collection : String) (target : Target) (verb : Verb)
  | repeatedAction (collection : String) (target : Target) (verb : Verb) (action : String)
  | blankIdentifier (collection action : String)
deriving DecidableEq, Repr

/-- The wording of a defect. -/
def Defect.message : Defect → String
  | .invalidVersion version => "'" ++ version ++ "' is not a valid version tag"
  | .unknownSubcollection collection subcollection =>
    "collection '" ++ collection ++ "' references unknown subcollection '" ++ subcollection ++ "'"
  | .unknownType collection typeName =>
    "collection '" ++ collection ++ "' is backed by unknown type '" ++ typeName ++ "'"
  | .undeclaredVerb collection target verb =>
    "collection '" ++ collection ++ "' declares " ++ target.name ++
      " actions for undeclared verb " ++ verb.label
  | .unnamedAction collection target verb =>
    "collection '" ++ collection ++ "' declares an unnamed " ++ target.name ++ " action for " ++
      verb.label
  | .repeatedAction collection target verb action =>
    "collection '" ++ collection ++ "' declares " ++ target.name ++ " action '" ++ action ++
      "' twice for " ++ verb.label
  | .blankIdentifier collection action =>
    "action '" ++ action ++ "' of collection '" ++ collection ++
      "' has an empty permission identifier"

namespace Config

/-- A supported version that is no version tag. -/
def versionDefect? (config : Config) : Option Defect :=
  (config.supportedVersions.find? fun version => !isVersionTag version).map .invalidVersion

/-- A reference of a collection to a collection or type that is not configured. Types are only
checked when some are. -/
def referenceDefect? (config : Config) (name : String) (collection : CollectionConfig) :
    Option Defect :=
  let missing := collection.subcollections.find? fun sub => !config.collections.contains sub
  match missing with
  | some sub => some (.unknownSubcollection name sub)
  | none =>
    if config.types.isEmpty then none
    else
      (collection.typeName.filter fun typeName => !config.types.contains typeName).map
        (.unknownType name)

end Config

namespace CollectionConfig

/-- A defect in the actions of one target under one verb; `seen` holds the names before them. -/
def actionDefect? (name : String) (target : Target) (verb : Verb) :
    List String → List ActionConfig → Option Defect
  | _, [] => none
  | seen, action :: rest =>
    if Text.isBlankText action.name then some (.unnamedAction name target verb)
    else if seen.contains action.name then some (.repeatedAction name target verb action.name)
    else if action.identifiers.any Text.isBlankText then some (.blankIdentifier name action.name)
    else actionDefect? name target verb (action.name :: seen) rest

/-- A defect in the actions of a collection, target by target and verb by verb. -/
def defect? (name : String) (collection : CollectionConfig) : Option Defect :=
  Target.all.findSome? fun target =>
    (collection.actions.at target).toList.findSome? fun entry =>
      if collection.verbs.contains entry.1 then actionDefect? name target entry.1 [] entry.2
      else some (.undeclaredVerb name target entry.1)

end CollectionConfig

/-- The first defect of a configuration: of its versions, then of the references of every
collection, then of the actions of every collection. -/
def Config.defect? (config : Config) : Option Defect :=
  let references := config.collections.entries.findSome? fun entry =>
    config.referenceDefect? entry.1 entry.2
  let actions := config.collections.entries.findSome? fun entry =>
    CollectionConfig.defect? entry.1 entry.2
  (config.versionDefect?.or references).or actions

end ResourceRouter
