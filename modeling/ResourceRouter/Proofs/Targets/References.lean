import ResourceRouter.Proofs.Address.RecordHref
import ResourceRouter.Proofs.Targets.Parent

set_option autoImplicit false

/-!
The ways to refer to one record. A number, a decimal text, a token and an href in any of these
spellings all give the same target, so that a request names a record once, however it is written.
-/

namespace ResourceRouter

/-- The elements that refer to the record with an id in the collection of a name: by the number, by a
spelling, by an href to the record itself, or by an href to the record under the parent that the
request goes through. Blanks around a text do not count, nor do other members beside an href. -/
inductive RefersTo (locator : Locator) (address : Address) (name : String) (id : UInt64) :
    Json → Prop
  | number {members : Members} (noHref : Json.lookup "href" members = none)
      (given : Json.lookup "id" members = some (Json.ofNat id.toNat)) :
      RefersTo locator address name id (.object members)
  | text {members : Members} {token text : String} (spelled : RecordId.IsSpelling id.toNat token)
      (padded : Text.IsPadded token text) (noHref : Json.lookup "href" members = none)
      (given : Json.lookup "id" members = some (.string text)) :
      RefersTo locator address name id (.object members)
  | record {members : Members} {token text : String} (spelled : RecordId.IsSpelling id.toNat token)
      (padded : Text.IsPadded (locator.href (.ofResource name token)) text)
      (given : Json.lookup "href" members = some (.string text)) :
      RefersTo locator address name id (.object members)
  | member {members : Members} {collection parent token text : String}
      (through : address.collection = some collection)
      (below : address.collectionId = some parent ∨
        address.collectionId = some (TokenDecoder.compressed.canonical parent))
      (nested : address.subcollection = some name)
      (leads : locator.parse (locator.href
        ((Address.ofResource collection parent).withSubcollection name none)) = address)
      (spelled : RecordId.IsSpelling id.toNat token)
      (padded : Text.IsPadded (locator.href
        ((Address.ofResource collection parent).withSubcollection name (some token))) text)
      (given : Json.lookup "href" members = some (.string text)) :
      RefersTo locator address name id (.object members)

/-- Where every element names a record, there are no failures and no new records. -/
theorem Targets.ofOutcomes_targets (ids : List String) :
    ofOutcomes (ids.map .target) = ⟨true, ids, [], 0⟩ := by
  have noFailure (index : Nat) : failuresFrom index (ids.map .target) = [] := by
    induction ids generalizing index with
    | nil => rfl
    | cons id rest ih =>
        rw [List.map_cons, failuresFrom_cons, ih]
        rfl
  have taken : (ids.map Outcome.target).filterMap Outcome.id? = ids := by
    rw [List.filterMap_map]
    exact List.filterMap_some
  have noRecord : (ids.map Outcome.target).countP Outcome.isCreated = 0 := by
    simp [List.countP_map, Function.comp_def, Outcome.isCreated]
  rw [ofOutcomes, taken, noFailure, noRecord]

namespace TargetReader

section Spellings

variable {reader : TargetReader} {root : String} (located : reader.locator = .under root .compressed)
  (plainRoot : ∀ c ∈ (Locator.under root .compressed).root.toList, c ≠ '?' ∧ c ≠ '#')
  {address : Address} {name : String} (about : address.targetCollection = some name)
  (plain : IsPlainSegment name) (noTag : isVersionTag name = false)
include located

theorem spelledId_of_spelling {id : Nat} {token text : String}
    (spelled : RecordId.IsSpelling id token) (padded : Text.IsPadded token text) :
    reader.spelledId (.string text) = id.repr := by
  have trimmed : Text.trimmed text = token := by
    rw [Text.trimmed, padded.trim_eq, Text.trim_eq_self spelled.isBlank_eq_false, String.ofList_toList]
  rw [spelledId, trimmed, located]
  exact spelled.canonical_eq

include plainRoot about plain noTag

/-- Every element that refers to a record has the id of that record. -/
theorem elementId_of_refersTo {id : UInt64} {element : Json}
    (refers : RefersTo reader.locator address name id element) (identifying : List String) :
    ∃ members, element = .object members ∧
      reader.elementId address identifying members = .ok id.toNat.repr := by
  have numeric := RecordId.isNumeric_repr id.toNat
  cases refers with
  | @number members noHref given =>
      refine ⟨members, rfl, elementId_eq_ok_iff.mpr (.inr ⟨by simp [noHref], .inl ⟨_, given, ?_⟩⟩)⟩
      exact explicitId_eq_ok_iff.mpr ⟨Nat.repr_eq_ofList_toDigits.symm, numeric⟩
  | @text members token text spelled padded noHref given =>
      refine ⟨members, rfl, elementId_eq_ok_iff.mpr (.inr ⟨by simp [noHref], .inl ⟨_, given, ?_⟩⟩)⟩
      exact explicitId_eq_ok_iff.mpr ⟨spelledId_of_spelling located spelled padded, numeric⟩
  | @record members token text spelled padded given =>
      refine ⟨members, rfl, elementId_eq_ok_iff.mpr (.inl ⟨text, given, ?_⟩)⟩
      rw [located] at padded
      rw [hrefId?_eq_some_iff, located,
        Locator.parse_record root plainRoot plain noTag spelled padded, about]
      exact ⟨rfl, by simp [Address.ofResource, Address.entrypoint], rfl, numeric⟩
  | @member members collection parent token text through below nested leads spelled padded given =>
      refine ⟨members, rfl, elementId_eq_ok_iff.mpr (.inl ⟨text, given, ?_⟩)⟩
      rw [located] at leads padded
      obtain ⟨record, decoded, read⟩ :=
        Locator.parse_member root plainRoot through below nested leads spelled padded
      rw [hrefId?_nested reader decoded nested, located, read]
      exact ⟨numeric, .inr ⟨rfl, rfl, rfl⟩⟩

theorem outcomesFrom_of_refersTo {action : String} (existing : isCreation action = false)
    (identifying : List String) {ids : List UInt64} {elements : List Json}
    (each : List.Forall₂ (RefersTo reader.locator address name) ids elements) (index : Nat) :
    reader.outcomesFrom address action identifying index elements =
      (ids.map fun id => id.toNat.repr).map .target := by
  induction each generalizing index with
  | nil => rfl
  | @cons id element ids elements refers others ih =>
      obtain ⟨members, rfl, read⟩ :=
        elementId_of_refersTo located plainRoot about plain noTag refers identifying
      have first : reader.outcome address action identifying index (.object members) =
          .target id.toNat.repr := by
        simp only [outcome, existing, Bool.false_eq_true, ↓reduceIte, read]
      have rest := ih (index + 1)
      rw [outcomesFrom] at rest ⊢
      rw [List.zipIdx_cons, List.map_cons, first, rest]
      rfl

/-- All ways to refer to a record lead to one target: the elements of a request give the decimal texts
of the ids that they refer to, one each and in order, and none of them fails. -/
theorem read_refersTo {verb : Verb} (keeps : verb ≠ .delete) {action : String}
    (existing : isCreation action = false) (identifying : List String) {ids : List UInt64}
    {elements : List Json} (each : List.Forall₂ (RefersTo reader.locator address name) ids elements)
    {body : Json} (listed : Json.member? "resources" body = some (.array elements)) :
    reader.read verb address action identifying (some body) =
      .ok ⟨true, ids.map fun id => id.toNat.repr, [], 0⟩ := by
  rw [read_of_resources reader address action identifying keeps listed,
    outcomesFrom_of_refersTo located plainRoot about plain noTag existing identifying each,
    Targets.ofOutcomes_targets]

end Spellings

/-- The largest id as a number and as a token, and two hrefs to tags of a machine. -/
def tagElements : List Json :=
  [.object [("id", Json.ofNat 18446744073709551615)],
    .object [("id", .string " 018446744r073709551615")],
    .object [("href", .string "/api/tags/1r5 "), ("id", .string "x")],
    .object [("href", .string "/api/machines/10/tags/0r7")]]

theorem refersTo_tagElements :
    List.Forall₂ (RefersTo underApi.locator machineTags "tags")
      [18446744073709551615, 18446744073709551615, 1000000000005, 7] tagElements := by
  have blank : ∀ c ∈ [' '], Text.isBlank c = true := List.forall_mem_singleton.mpr rfl
  have noGap : ∀ c ∈ ([] : List Char), Text.isBlank c = true := by simp
  refine .cons ?_ (.cons ?_ (.cons ?_ (.cons ?_ .nil)))
  · exact .number rfl rfl
  · have spelled : RecordId.IsSpelling 18446744073709551615 "018446744r073709551615" :=
      .inr (by decide +kernel)
    exact .text spelled ⟨[' '], [], blank, noGap, by decide +kernel⟩ rfl rfl
  · have spelled : RecordId.IsSpelling 1000000000005 "1r5" := .inr (by decide +kernel)
    exact .record spelled ⟨[], [' '], noGap, blank, by decide +kernel⟩ rfl
  · have spelled : RecordId.IsSpelling 7 "0r7" := .inr (by decide +kernel)
    have through : machineTags.collection = some "machines" := rfl
    have below : machineTags.collectionId = some "10" := rfl
    have leads : underApi.locator.parse (underApi.locator.href
        ((Address.ofResource "machines" "10").withSubcollection "tags" none)) = machineTags := by
      decide +kernel
    have padded : Text.IsPadded (underApi.locator.href
        ((Address.ofResource "machines" "10").withSubcollection "tags" (some "0r7")))
          "/api/machines/10/tags/0r7" := ⟨[], [], noGap, noGap, by decide +kernel⟩
    exact .member through (.inl below) rfl leads spelled padded rfl

theorem read_refersTo_tags :
    List.Forall₂ (RefersTo underApi.locator machineTags "tags")
        [18446744073709551615, 18446744073709551615, 1000000000005, 7] tagElements ∧
      underApi.read .post machineTags "assign" ["name"] (some (batch tagElements)) =
        .ok ⟨true, ["18446744073709551615", "18446744073709551615", "1000000000005", "7"], [], 0⟩ := by
  have plainRoot : ∀ c ∈ (Locator.under "/api" .compressed).root.toList, c ≠ '?' ∧ c ≠ '#' := by
    have each : (Locator.under "/api" .compressed).root.toList.all
        (fun c => c ≠ '?' ∧ c ≠ '#') = true := by
      decide +kernel
    simpa using each
  have located : underApi.locator = .under "/api" .compressed := rfl
  have about : machineTags.targetCollection = some "tags" := rfl
  have keeps : Verb.post ≠ .delete := by decide
  have existing : isCreation "assign" = false := by decide
  have listed : Json.member? "resources" (batch tagElements) = some (.array tagElements) := rfl
  have read := read_refersTo located plainRoot about (by decide) (by decide) keeps existing ["name"]
    refersTo_tagElements listed
  have texts : [18446744073709551615, 18446744073709551615, 1000000000005, 7].map
      (fun id : UInt64 => id.toNat.repr) =
        ["18446744073709551615", "18446744073709551615", "1000000000005", "7"] := by
    decide +kernel
  rw [texts] at read
  exact ⟨refersTo_tagElements, read⟩

end TargetReader

end ResourceRouter
