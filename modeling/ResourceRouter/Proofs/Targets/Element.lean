import Mathlib.Data.List.Basic
import ResourceRouter.Targets.Reader

set_option autoImplicit false

/-!
The record that one element names: that of its href, else that of its own id, else the one found by
the first identifying attribute that is given. One statement for each way, both ways round.
-/

namespace ResourceRouter

/-- The first of the identifying attributes that an element has with a value other than null. -/
structure Members.IsFirst (members : Members) (identifying : List String) (name : String)
    (value : Json) : Prop where
  first : ∃ before after, identifying = before ++ name :: after ∧
    ∀ earlier ∈ before, ∀ held, Json.lookup earlier members = some held → held = .null
  given : Json.lookup name members = some value
  not_null : value ≠ .null

namespace Members

variable {members : Members} {name : String} {value : Json}

theorem given?_eq_some_iff :
    members.given? name = some value ↔ Json.lookup name members = some value ∧ value ≠ .null := by
  rw [given?, Option.bind_eq_some_iff]
  constructor
  · rintro ⟨held, found, kept⟩
    cases held <;> cases kept <;> exact ⟨found, by simp⟩
  · rintro ⟨found, other⟩
    exact ⟨value, found, by cases value <;> simp at other ⊢⟩

theorem given?_eq_none_iff :
    members.given? name = none ↔ ∀ held, Json.lookup name members = some held → held = .null := by
  rw [Option.eq_none_iff_forall_ne_some]
  simp only [ne_eq, given?_eq_some_iff, not_and, not_not]

theorem findSome?_given_eq_some_iff {identifying : List String} :
    identifying.findSome? (fun name => (members.given? name).map fun value => (name, value)) =
      some (name, value) ↔ members.IsFirst identifying name value := by
  rw [List.findSome?_eq_some_iff]
  constructor
  · rintro ⟨before, attempt, after, split, found, earlier⟩
    obtain ⟨held, given, same⟩ := Option.map_eq_some_iff.mp found
    obtain ⟨rfl, rfl⟩ := Prod.mk.inj same
    obtain ⟨present, notNull⟩ := given?_eq_some_iff.mp given
    refine ⟨⟨before, after, split, fun other listed => ?_⟩, present, notNull⟩
    exact given?_eq_none_iff.mp (Option.map_eq_none_iff.mp (earlier other listed))
  · rintro ⟨⟨before, after, split, earlier⟩, present, notNull⟩
    refine ⟨before, name, after, split, ?_, fun other listed => ?_⟩
    · rw [given?_eq_some_iff.mpr ⟨present, notNull⟩]
      rfl
    · rw [given?_eq_none_iff.mpr (earlier other listed)]
      rfl

end Members

namespace TargetReader

variable {reader : TargetReader} {address : Address} {identifying : List String}
variable {members : Members} {id : String}

/-- An href gives an id where it is about the collection of the request, and under a parent with the
id of the request's own if either has one. -/
theorem hrefId?_eq_some_iff {href : String} :
    reader.hrefId? address href = some id ↔
      (reader.locator.parse href).targetCollection = address.targetCollection ∧
        (address.subcollection.isSome → (reader.locator.parse href).subcollection.isSome →
          (reader.locator.parse href).collectionId = address.collectionId) ∧
        (reader.locator.parse href).targetId = some id ∧ RecordId.isNumeric id = true := by
  unfold hrefId?
  generalize reader.locator.parse href = parsed
  by_cases about : parsed.targetCollection = address.targetCollection
  · have passes : (address.subcollection.isSome && parsed.subcollection.isSome &&
        parsed.collectionId != address.collectionId) = false ↔
        (address.subcollection.isSome → parsed.subcollection.isSome →
          parsed.collectionId = address.collectionId) := by
      cases address.subcollection <;> cases parsed.subcollection <;> simp
    simp only [about, ne_eq, not_true_eq_false, ↓reduceIte, true_and, ← passes]
    split
    · next other => simp [other]
    · next shared => simp [shared, Option.filter_eq_some_iff]
  · simp [about]

theorem explicitId_eq_ok_iff {value : Json} :
    reader.explicitId value = .ok id ↔
      reader.spelledId value = id ∧ RecordId.isNumeric id = true := by
  dsimp only [explicitId]
  split
  · next numeric =>
      rw [Except.ok.injEq]
      exact ⟨fun same => ⟨same, same ▸ numeric⟩, And.left⟩
  · next other =>
      simp only [reduceCtorEq, false_iff, not_and]
      rintro rfl
      exact other

theorem attributeId_eq_ok_iff {collection : String} :
    reader.attributeId collection members identifying = .ok id ↔
      ∃ name value, members.IsFirst identifying name value ∧
        reader.identity.find? collection name value = some id := by
  simp only [← Members.findSome?_given_eq_some_iff]
  dsimp only [attributeId]
  split
  · next nothing => simp [nothing]
  · next name value given =>
      rw [given]
      cases found : reader.identity.find? collection name value <;> simp [found]

/-- The href of an element counts where it is a text, and gives the id that the text gives. -/
theorem href_eq_some_iff :
    ((Json.lookup "href" members).bind Json.string?).bind (reader.hrefId? address) = some id ↔
      ∃ href, Json.lookup "href" members = some (.string href) ∧
        reader.hrefId? address href = some id := by
  simp only [Option.bind_eq_some_iff]
  constructor
  · rintro ⟨href, ⟨value, written, text⟩, given⟩
    cases value <;> cases text
    exact ⟨href, written, given⟩
  · rintro ⟨href, written, given⟩
    exact ⟨href, ⟨.string href, written, rfl⟩, given⟩

theorem href_eq_none_iff :
    ((Json.lookup "href" members).bind Json.string?).bind (reader.hrefId? address) = none ↔
      ∀ href, Json.lookup "href" members = some (.string href) →
        reader.hrefId? address href = none := by
  simp only [Option.eq_none_iff_forall_ne_some, ne_eq, href_eq_some_iff, not_exists, not_and]
  exact ⟨fun unread href written id => unread id href written, fun unread id href written =>
    unread href written id⟩

/-- An element has the id of its href, else its own id, else that of its first identifying
attribute. -/
theorem elementId_eq_ok_iff :
    reader.elementId address identifying members = .ok id ↔
      (∃ href, Json.lookup "href" members = some (.string href) ∧
        reader.hrefId? address href = some id) ∨
      (∀ href, Json.lookup "href" members = some (.string href) →
        reader.hrefId? address href = none) ∧
        ((∃ value, Json.lookup "id" members = some value ∧ reader.explicitId value = .ok id) ∨
          Json.lookup "id" members = none ∧
            reader.attributeId (address.targetCollection.getD "") members identifying = .ok id) := by
  rw [← href_eq_some_iff, ← href_eq_none_iff]
  dsimp only [elementId]
  generalize ((Json.lookup "href" members).bind Json.string?).bind (reader.hrefId? address) = href
  cases href with
  | some given => simp
  | none => cases Json.lookup "id" members <;> simp

/-- An element has a target where it names a record and none is to be made. -/
theorem outcome_eq_target_iff {action : String} {index : Nat} :
    reader.outcome address action identifying index (.object members) = .target id ↔
      isCreation action = false ∧ reader.elementId address identifying members = .ok id := by
  cases making : isCreation action with
  | true =>
      simp only [outcome, making, ↓reduceIte, reduceCtorEq, false_and, iff_false]
      split <;> simp
  | false =>
      simp only [outcome, making, Bool.false_eq_true, ↓reduceIte, true_and]
      cases reader.elementId address identifying members <;> simp

end TargetReader

end ResourceRouter
