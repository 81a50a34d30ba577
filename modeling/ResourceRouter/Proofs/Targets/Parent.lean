import ResourceRouter.Proofs.Targets.Bulk
import ResourceRouter.Proofs.Targets.Element

set_option autoImplicit false

/-!
Elements of a request through a subcollection. An href names a record of the subcollection by itself
or as a member under a parent, and of the parent the request compares the id: under whichever
collection it stands, a parent with that id is taken for the one of the request.
-/

namespace ResourceRouter

namespace Address

/-- The address names a record of a collection by itself. -/
structure IsRecordOf (address : Address) (collection id : String) : Prop where
  direct : address.subcollection = none
  collection : address.collection = some collection
  collectionId : address.collectionId = some id

/-- The address names a record of a subcollection under a parent with an id. -/
structure IsMemberUnder (address : Address) (parent subcollection id : String) : Prop where
  collectionId : address.collectionId = some parent
  subcollection : address.subcollection = some subcollection
  subcollectionId : address.subcollectionId = some id

end Address

namespace TargetReader

section Parent

variable (reader : TargetReader) {address : Address} {href id : String}

/-- The id that an href gives to a request through a subcollection. -/
theorem hrefId?_nested {parent subcollection : String}
    (through : address.collectionId = some parent)
    (nested : address.subcollection = some subcollection) :
    reader.hrefId? address href = some id ↔
      RecordId.isNumeric id = true ∧
        ((reader.locator.parse href).IsRecordOf subcollection id ∨
          (reader.locator.parse href).IsMemberUnder parent subcollection id) := by
  rw [hrefId?_eq_some_iff]
  generalize reader.locator.parse href = parsed
  constructor
  · rintro ⟨about, shared, given, numeric⟩
    refine ⟨numeric, ?_⟩
    rw [Address.targetCollection, Address.targetCollection, nested, Option.some_or] at about
    rw [nested, through] at shared
    cases stands : parsed.subcollection with
    | none =>
        rw [stands, Option.none_or] at about
        simp only [Address.targetId, stands, Option.isSome_none, Bool.false_eq_true,
          ↓reduceIte] at given
        exact .inl ⟨stands, about, given⟩
    | some name =>
        simp only [Address.targetId, stands, Option.isSome_some, ↓reduceIte] at given
        exact .inr ⟨shared rfl (by rw [stands]; rfl), by rw [← about, stands]; rfl, given⟩
  · rintro ⟨numeric, record | member⟩
    · refine ⟨?_, fun _ stands => ?_, ?_, numeric⟩
      · rw [Address.targetCollection, Address.targetCollection, record.direct, record.collection,
          nested]
        rfl
      · simp [record.direct] at stands
      · simp [Address.targetId, record.direct, record.collectionId]
    · refine ⟨?_, fun _ _ => ?_, ?_, numeric⟩
      · rw [Address.targetCollection, Address.targetCollection, member.subcollection, nested]
        rfl
      · rw [member.collectionId, through]
      · simp [Address.targetId, member.subcollection, member.subcollectionId]

/-- Without an id or an attribute that identifies it, an element has the target of its href. -/
theorem outcome_of_href {action : String} (existing : isCreation action = false)
    {identifying : List String} {members : Members} {index : Nat}
    (written : Json.lookup "href" members = some (.string href))
    (noId : members.given? "id" = none)
    (noAttribute : ∀ name ∈ identifying, members.given? name = none) :
    reader.outcome address action identifying index (.object members) = .target id ↔
      reader.hrefId? address href = some id := by
  rw [outcome_eq_target_iff, elementId_eq_ok_iff]
  constructor
  · rintro ⟨-, ⟨other, same, given⟩ | ⟨-, ⟨value, held, own⟩ | ⟨-, found⟩⟩⟩
    · rw [written] at same
      cases same
      exact given
    · -- An id that is written but not given is null, which no element may have for an id.
      obtain rfl := Members.given?_eq_none_iff.mp noId value held
      cases own
    · obtain ⟨name, value, first, -⟩ := attributeId_eq_ok_iff.mp found
      obtain ⟨before, after, split, -⟩ := first.first
      have listed : name ∈ identifying := by simp [split]
      have null := Members.given?_eq_none_iff.mp (noAttribute name listed) value first.given
      exact absurd null first.not_null
  · intro given
    exact ⟨existing, .inl ⟨href, written, given⟩⟩

/-- An element with nothing but an href has its target exactly where the href names a record of the
subcollection, by itself or under a parent with the id of the request's own. It keeps to that parent
unless the href goes through a record with the same id in another collection. -/
theorem outcome_of_nested_href {action : String} (existing : isCreation action = false)
    {parent subcollection : String} (through : address.collectionId = some parent)
    (nested : address.subcollection = some subcollection) (identifying : List String) (index : Nat)
    (id : String) {members : Members} (written : Json.lookup "href" members = some (.string href))
    (noId : members.given? "id" = none)
    (noAttribute : ∀ name ∈ identifying, members.given? name = none) :
    let parsed := reader.locator.parse href
    let taken := reader.outcome address action identifying index (.object members) = .target id
    (taken ↔ RecordId.isNumeric id = true ∧
      (parsed.IsRecordOf subcollection id ∨ parsed.IsMemberUnder parent subcollection id)) ∧
    ((taken → parsed.IsRecordOf subcollection id ∨
        parsed.collection = address.collection ∧ parsed.IsMemberUnder parent subcollection id) ↔
      ¬ (RecordId.isNumeric id = true ∧ parsed.IsMemberUnder parent subcollection id ∧
        parsed.collection ≠ address.collection)) := by
  intro parsed taken
  have decides : taken ↔ RecordId.isNumeric id = true ∧
      (parsed.IsRecordOf subcollection id ∨ parsed.IsMemberUnder parent subcollection id) :=
    (outcome_of_href reader existing written noId noAttribute).trans
      (hrefId?_nested reader through nested)
  refine ⟨decides, ?_⟩
  rw [decides]
  constructor
  · rintro keeps ⟨numeric, member, elsewhere⟩
    rcases keeps ⟨numeric, .inr member⟩ with record | ⟨here, -⟩
    · have stands := member.subcollection
      rw [record.direct] at stands
      cases stands
    · exact elsewhere here
  · rintro keeps ⟨numeric, record | member⟩
    · exact .inl record
    · refine .inr ⟨?_, member⟩
      by_contra elsewhere
      exact keeps ⟨numeric, member, elsewhere⟩

/-- The tags of the machine with id 10. -/
def machineTags : Address := ⟨some "machines", some "10", some "tags", none, none⟩

/-- An element with nothing but an href. -/
def hrefOnly (href : String) : Members := [("href", .string href)]

theorem outcome_of_nested_href_tags :
    underApi.outcome machineTags "assign" ["name"] 0
        (.object (hrefOnly "/api/machines/10/tags/1r3")) = .target "1000000000003" ∧
      ∀ id, underApi.outcome machineTags "assign" ["name"] 0
        (.object (hrefOnly "/api/machines/11/tags/3")) ≠ .target id := by
  have existing : isCreation "assign" = false := by decide
  have through : machineTags.collectionId = some "10" := rfl
  have nested : machineTags.subcollection = some "tags" := rfl
  have written (href : String) : Json.lookup "href" (hrefOnly href) = some (.string href) := rfl
  have noId (href : String) : (hrefOnly href).given? "id" = none := rfl
  have noAttribute (href : String) : ∀ name ∈ ["name"], (hrefOnly href).given? name = none := by
    rintro name (_ | ⟨_, ⟨⟩⟩)
    rfl
  have own : underApi.locator.parse "/api/machines/10/tags/1r3" =
      ⟨some "machines", some "10", some "tags", some "1000000000003", none⟩ := by
    decide +kernel
  have other : underApi.locator.parse "/api/machines/11/tags/3" =
      ⟨some "machines", some "11", some "tags", some "3", none⟩ := by
    decide +kernel
  constructor
  · have decides := (outcome_of_nested_href underApi existing through nested ["name"] 0
      "1000000000003" (written "/api/machines/10/tags/1r3") (noId _) (noAttribute _)).1
    rw [own] at decides
    exact decides.mpr ⟨by decide +kernel, .inr ⟨rfl, rfl, rfl⟩⟩
  · intro id taken
    have decides := (outcome_of_nested_href underApi existing through nested ["name"] 0
      id (written "/api/machines/11/tags/3") (noId _) (noAttribute _)).1
    rw [other] at decides
    rcases (decides.mp taken).2 with record | member
    · cases record.direct
    · have parent : "11" = "10" := Option.some.inj member.collectionId
      exact absurd parent (by decide)

/-- A tag of another collection's record passes for a tag of the machine with the same id. -/
theorem outcome_of_namesake_href :
    ¬ ∀ id, underApi.outcome machineTags "assign" [] 0
        (.object (hrefOnly "/api/hosts/10/tags/3")) = .target id →
      (underApi.locator.parse "/api/hosts/10/tags/3").IsRecordOf "tags" id ∨
        (underApi.locator.parse "/api/hosts/10/tags/3").collection = some "machines" ∧
          (underApi.locator.parse "/api/hosts/10/tags/3").IsMemberUnder "10" "tags" id := by
  intro keeps
  have parsed : underApi.locator.parse "/api/hosts/10/tags/3" =
      ⟨some "hosts", some "10", some "tags", some "3", none⟩ := by
    decide +kernel
  have given : underApi.hrefId? machineTags "/api/hosts/10/tags/3" = some "3" := by
    decide +kernel
  have taken : underApi.outcome machineTags "assign" [] 0
      (.object (hrefOnly "/api/hosts/10/tags/3")) = .target "3" :=
    (outcome_of_href underApi (by decide) rfl rfl (by simp)).mpr given
  rcases keeps "3" taken with record | ⟨here, -⟩
  · have direct := record.direct
    rw [parsed] at direct
    cases direct
  · rw [parsed] at here
    exact absurd (Option.some.inj here) (by decide)

end Parent

end TargetReader

end ResourceRouter
