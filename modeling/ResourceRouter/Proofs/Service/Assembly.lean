import ResourceRouter.Proofs.Address.Root
import ResourceRouter.Proofs.Dispatch.Authorization
import ResourceRouter.Proofs.Service.Pipeline
import ResourceRouter.Proofs.Service.Reconfiguration

set_option autoImplicit false

/-!
Services whose parts were replaced, against those assembled from the last parts at once. The order of
the replacements makes no difference, and every part is the last one given. But each decoder has the
root normalized again: under a root that ends in a blank, services with a new decoder read other paths.
-/

namespace ResourceRouter

namespace Replacement

def decoder? : Replacement → Option TokenDecoder
  | .decoder given => some given
  | _ => none

def identity? : Replacement → Option Identity
  | .identity given => some given
  | _ => none

def schema? : Replacement → Option Schema
  | .schema given => some given
  | _ => none

def dispatcher? : Replacement → Option Dispatcher
  | .dispatcher given => some given
  | _ => none

end Replacement

/-- The parts of a service that may be replaced. -/
structure Parts where
  decoder : TokenDecoder
  identity : Identity
  schema : Schema
  dispatcher : Dispatcher

namespace Parts

/-- The parts of a service that was just built. -/
def standard (config : Config) (catalogue : Catalogue) : Parts where
  decoder := .compressed
  identity := .nothing
  schema := .ofTypes config.types
  dispatcher := .ofCatalogue catalogue

/-- Of each part the last one that is given, or else the one at hand. -/
def updated (parts : Parts) (replacements : List Replacement) : Parts where
  decoder := (replacements.filterMap Replacement.decoder?).getLast?.getD parts.decoder
  identity := (replacements.filterMap Replacement.identity?).getLast?.getD parts.identity
  schema := (replacements.filterMap Replacement.schema?).getLast?.getD parts.schema
  dispatcher := (replacements.filterMap Replacement.dispatcher?).getLast?.getD parts.dispatcher

theorem updated_concat (parts : Parts) (replacements : List Replacement) (last : Replacement) :
    parts.updated (replacements ++ [last]) = (parts.updated replacements).updated [last] := by
  cases last <;>
    simp [updated, Replacement.decoder?, Replacement.identity?, Replacement.schema?,
      Replacement.dispatcher?]

end Parts

/-- The number of decoders that are given. -/
def Replacement.decoders (replacements : List Replacement) : Nat :=
  (replacements.filterMap decoder?).length

namespace TargetReader

/-- Readers that agree on hrefs, tokens and records read the same targets. -/
theorem read_congr {first second : TargetReader}
    (parse : ∀ href, first.locator.parse href = second.locator.parse href)
    (decoder : first.locator.decoder = second.locator.decoder)
    (identity : first.identity = second.identity) : first.read = second.read := by
  have sameHref : first.hrefId? = second.hrefId? := by
    funext address href
    simp only [hrefId?, parse]
  have sameId : first.explicitId = second.explicitId := by
    have spelled : first.spelledId = second.spelledId := by
      funext value
      unfold spelledId
      rw [decoder]
    funext value
    simp only [explicitId, spelled]
  have sameRecord : first.attributeId = second.attributeId := by
    funext collection members identifying
    simp only [attributeId, identity]
  have sameOutcome : first.outcome = second.outcome := by
    funext address action identifying index element
    simp only [outcome, elementId, sameHref, sameId, sameRecord]
  funext verb address action identifying body
  simp only [read, outcomesFrom, sameOutcome]

end TargetReader

namespace Service

/-- The service of the given parts under a root, with what it keeps of its configuration. -/
def assembled (config : Config) (catalogue : Catalogue) (root : List Char) (parts : Parts) :
    Service where
  catalogue := catalogue
  locator := ⟨String.ofList root, parts.decoder⟩
  dispatcher := parts.dispatcher
  schema := parts.schema
  identity := parts.identity
  grouping := config.grouping

section Assembled

variable (config : Config) (catalogue : Catalogue) (root : List Char) (parts : Parts)
  (replacements : List Replacement)

/-- One replacement takes its part and leaves the others; a decoder has the root normalized. -/
theorem replace_assembled (replacement : Replacement) :
    (assembled config catalogue root parts).replace replacement =
      assembled config catalogue (Locator.normalizeRoot^[Replacement.decoders [replacement]] root)
        (parts.updated [replacement]) := by
  cases replacement with
  | decoder decoder =>
      simp only [replace, withDecoder, assembled, Locator.under, String.toList_ofList]
      rfl
  | _ => rfl

theorem replaceAll_assembled :
    (assembled config catalogue root parts).replaceAll replacements =
      assembled config catalogue (Locator.normalizeRoot^[Replacement.decoders replacements] root)
        (parts.updated replacements) := by
  induction replacements using List.reverseRecOn with
  | nil => rfl
  | append_singleton replacements last ih =>
      have count : Replacement.decoders (replacements ++ [last]) =
          Replacement.decoders [last] + Replacement.decoders replacements := by
        simp [Replacement.decoders, Nat.add_comm]
      rw [replaceAll, List.foldl_concat, ← replaceAll, ih, replace_assembled, Parts.updated_concat,
        count, Function.iterate_add_apply]

end Assembled

theorem ofConfig_eq_assembled {config : Config} {base : Service}
    (configured : ofConfig config = .ok base) :
    base = assembled config base.catalogue (Locator.normalizeRoot config.root.toList)
      (.standard config base.catalogue) := by
  obtain ⟨catalogue, -, rfl⟩ := Stage.map_eq_ok.mp configured
  rfl

section Roots

variable {config : Config} {catalogue : Catalogue} {root other : List Char} {parts : Parts}

/-- Roots under which every path leads to the same address make no difference. -/
theorem prepare_assembled_congr
    (parse : ∀ href, (Locator.mk (String.ofList root) parts.decoder).parse href =
      (Locator.mk (String.ofList other) parts.decoder).parse href) (request : Request)
    (permissions : Permissions) :
    (assembled config catalogue root parts).prepare request permissions =
      (assembled config catalogue other parts).prepare request permissions := by
  have read : (assembled config catalogue root parts).reader.read =
      (assembled config catalogue other parts).reader.read :=
    TargetReader.read_congr parse rfl rfl
  have parsed : ∀ href, (assembled config catalogue root parts).locator.parse href =
      (assembled config catalogue other parts).locator.parse href := parse
  have sameTargets : (assembled config catalogue root parts).readTargets =
      (assembled config catalogue other parts).readTargets := by
    funext address request
    simp only [readTargets, read]
    rfl
  simp only [prepare, parsed, sameTargets]
  rfl

end Roots

/-- A request for the options of a path. -/
def optionsRequest (path : String) : Request := ⟨.options, path, none, [], []⟩

/-- A request for options leads to the collection of its path. -/
theorem collection_of_prepare_options {service : Service} {path : String} {operation : Operation}
    {permissions : Permissions}
    (prepared : service.prepare (optionsRequest path) permissions = .ok operation) :
    operation.decision.collection = (service.locator.parse path).collection := by
  obtain ⟨-, -, resolved, -, -⟩ := prepare_eq_ok_iff.mp prepared
  change service.dispatcher.resolve .options (service.locator.parse path) none permissions = _
    at resolved
  cases named : (service.locator.parse path).collection with
  | none =>
      simp only [Dispatcher.resolve, named, Dispatcher.resolveEntrypoint] at resolved
      rw [← Except.ok.inj resolved]
  | some collection =>
      obtain ⟨-, same⟩ := (Dispatcher.resolve_options_eq_ok_iff named).mp resolved
      rw [← same]

theorem prepare_options_entrypoint {service : Service} {path : String}
    (entrypoint : service.locator.parse path = .entrypoint) (permissions : Permissions) :
    ∃ operation, service.prepare (optionsRequest path) permissions = .ok operation := by
  simp only [prepare, optionsRequest, entrypoint]
  exact ⟨_, rfl⟩

section Normalized

variable (config : Config) (catalogue : Catalogue) {root : List Char}
  (isRoot : Locator.IsRoot root) (parts : Parts) {count : Nat}
include isRoot

/-- Once the blank at its end is lost, the path of a plain root is the entrypoint no more. -/
theorem exists_prepare_iterate_ne (plain : '?' ∉ root ∧ '#' ∉ root)
    (changed : Locator.normalizeRoot^[count] root ≠ root) :
    ∃ request permissions,
      (assembled config catalogue (Locator.normalizeRoot^[count] root) parts).prepare request
          permissions ≠
        (assembled config catalogue root parts).prepare request permissions := by
  have unmarked : ∀ c ∈ root, c ≠ '?' ∧ c ≠ '#' := fun c inside =>
    ⟨ne_of_mem_of_not_mem inside plain.1, ne_of_mem_of_not_mem inside plain.2⟩
  have entrypoint : (assembled config catalogue root parts).locator.parse
      (String.ofList (root ++ ['/'])) = .entrypoint :=
    isRoot.parse_root parts.decoder unmarked
  have named : ((assembled config catalogue (Locator.normalizeRoot^[count] root)
      parts).locator.parse (String.ofList (root ++ ['/']))).collection.isSome :=
    isRoot.isSome_collection_iterate parts.decoder unmarked changed
  obtain ⟨operation, prepared⟩ := prepare_options_entrypoint entrypoint .nothing
  refine ⟨optionsRequest (String.ofList (root ++ ['/'])), .nothing, fun same => ?_⟩
  rw [← collection_of_prepare_options (same.trans prepared),
    collection_of_prepare_options prepared, entrypoint] at named
  cases named

theorem prepare_iterate_of_mark (marked : '?' ∈ root ∨ '#' ∈ root) (request : Request)
    (permissions : Permissions) :
    (assembled config catalogue (Locator.normalizeRoot^[count] root) parts).prepare request
        permissions =
      (assembled config catalogue root parts).prepare request permissions := by
  have stillMarked : '?' ∈ Locator.normalizeRoot^[count] root ∨
      '#' ∈ Locator.normalizeRoot^[count] root :=
    marked.imp (fun inside => Locator.mem_iterate isRoot count inside rfl rfl)
      fun inside => Locator.mem_iterate isRoot count inside rfl rfl
  apply prepare_assembled_congr
  intro href
  rw [(Locator.isRoot_iterate isRoot count).parse_of_mark _ stillMarked,
    isRoot.parse_of_mark _ marked]

/-- A root that is normalized again makes no difference to requests when it is kept, or when it has a
mark that ends paths: no path is under such a root. -/
theorem prepare_iterate_iff :
    (∀ request permissions,
      (assembled config catalogue (Locator.normalizeRoot^[count] root) parts).prepare request
          permissions =
        (assembled config catalogue root parts).prepare request permissions) ↔
      count = 0 ∨ Text.endsInBlank root = false ∨ '?' ∈ root ∨ '#' ∈ root := by
  rw [← or_assoc, ← Locator.iterate_eq_self_iff isRoot]
  constructor
  · intro agree
    by_contra differs
    obtain ⟨changed, plain⟩ := not_or.mp differs
    obtain ⟨request, permissions, distinct⟩ :=
      exists_prepare_iterate_ne config catalogue isRoot parts (not_or.mp plain) changed
    exact distinct (agree request permissions)
  · rintro (kept | marked) request permissions
    · rw [kept]
    · exact prepare_iterate_of_mark config catalogue isRoot parts marked request permissions

end Normalized

/-- A service whose parts were replaced, in whatever order, is the one assembled from the last part
given of each kind, and its reader has its own locator; but its root was normalized again with each
decoder, and is only kept where it does not end in a blank. The service answers every request as with
its first root when that is kept, or when no path is under it. -/
theorem replaceAll_eq_assembled {config : Config} {base : Service}
    (configured : ofConfig config = .ok base) (replacements : List Replacement) :
    let root := Locator.normalizeRoot config.root.toList
    let parts := (Parts.standard config base.catalogue).updated replacements
    let decoders := Replacement.decoders replacements
    let service := base.replaceAll replacements
    let direct := assembled config base.catalogue root parts
    service = assembled config base.catalogue (Locator.normalizeRoot^[decoders] root) parts ∧
    service.reader = ⟨service.locator, service.identity⟩ ∧
    (service.locator.root = direct.locator.root ↔
      decoders = 0 ∨ Text.endsInBlank root = false) ∧
    ((∀ request permissions,
        service.prepare request permissions = direct.prepare request permissions) ↔
      decoders = 0 ∨ Text.endsInBlank root = false ∨ '?' ∈ root ∨ '#' ∈ root) := by
  intro root parts decoders service direct
  have isRoot : Locator.IsRoot root := Locator.isRoot_normalizeRoot config.root.toList
  have whole : service =
      assembled config base.catalogue (Locator.normalizeRoot^[decoders] root) parts := by
    have made := replaceAll_assembled config base.catalogue root (.standard config base.catalogue)
      replacements
    rwa [← ofConfig_eq_assembled configured] at made
  rw [whole]
  refine ⟨rfl, rfl, ?_, prepare_iterate_iff config base.catalogue isRoot parts⟩
  rw [← Locator.iterate_eq_self_iff isRoot]
  exact String.ofList_inj

/-- Under a root without blanks, a service answers alike whatever was replaced before its decoder. -/
theorem replaceAll_eq_assembled_machines :
    ofConfig .machines = .ok machines ∧
    ∀ request permissions,
      (machines.replaceAll [.identity .nothing, .decoder .compressed]).prepare request permissions =
        (assembled .machines .machines (Locator.normalizeRoot "/api".toList)
          ((Parts.standard .machines .machines).updated
            [.identity .nothing, .decoder .compressed])).prepare request permissions := by
  refine ⟨ofConfig_machines, ?_⟩
  have same := replaceAll_eq_assembled ofConfig_machines [.identity .nothing, .decoder .compressed]
  exact same.2.2.2.mpr (.inr (.inl (by decide +kernel)))

/-- The small interface under a root that ends in a blank once it is normalized. -/
def spaced : Config := { Config.machines with root := "/api /" }

/-- With the decoder that it has already, a service under such a root loses the blank, and with it the
path of its entrypoint. -/
theorem replaceAll_spaced :
    ∃ base, ofConfig spaced = .ok base ∧
      base.locator.root = "/api " ∧
      (base.replaceAll [.decoder .compressed]).locator.root = "/api" ∧
      (base.prepare (optionsRequest "/api /") .nothing).toOption.isSome ∧
      (base.replaceAll [.decoder .compressed]).prepare (optionsRequest "/api /") .nothing ≠
        (assembled spaced base.catalogue (Locator.normalizeRoot spaced.root.toList)
          ((Parts.standard spaced base.catalogue).updated [.decoder .compressed])).prepare
            (optionsRequest "/api /") .nothing := by
  have accepted : Catalogue.ofConfig spaced = .ok .machines := by
    decide +kernel
  refine ⟨assembled spaced .machines (Locator.normalizeRoot spaced.root.toList)
    (.standard spaced .machines), ?_, by decide +kernel, by decide +kernel, by decide +kernel, ?_⟩
  · rw [ofConfig, accepted]
    rfl
  · intro same
    have shown := congrArg (fun result => (Except.toOption result).isSome) same
    revert shown
    decide +kernel

end Service

end ResourceRouter
