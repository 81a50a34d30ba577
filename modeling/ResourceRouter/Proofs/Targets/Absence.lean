import ResourceRouter.Proofs.Json.Lookup
import ResourceRouter.Proofs.Targets.Provenance

set_option autoImplicit false

/-!
Members that are null. Creation, hrefs and identifying attributes take a null member as absent, but a
null id is read as an id: it fails an element that would be looked up without it. An element keeps its
outcome without its null members in every other case, and only there.
-/

namespace ResourceRouter

/-- A caller is told the same: a new record, the same target, or a failure of the same kind. -/
structure Outcome.Agrees (first second : Outcome) : Prop where
  created : first.isCreated = second.isCreated
  target : first.id? = second.id?
  failure : first.fault?.map Fault.kind = second.fault?.map Fault.kind

theorem Outcome.Agrees.refl (outcome : Outcome) : outcome.Agrees outcome := ⟨rfl, rfl, rfl⟩

namespace Members

/-- The members but for those of some names. -/
def without (removed : List String) (members : Members) : Members :=
  members.filter fun member => !removed.contains member.1

variable {removed : List String} {members : Members}

theorem lookup_without (name : String) :
    Json.lookup name (members.without removed) =
      if name ∈ removed then none else Json.lookup name members := by
  rw [without, Json.lookup_filter (!removed.contains ·)]
  by_cases gone : name ∈ removed <;> simp [gone]

theorem lookup_without_of_kept {name : String}
    (kept : name ∈ removed → Json.lookup name members = none) :
    Json.lookup name (members.without removed) = Json.lookup name members := by
  rw [lookup_without]
  split
  · next gone => exact (kept gone).symm
  · rfl

section Absent

variable (absent : ∀ name ∈ removed, members.given? name = none)
include absent

/-- Where only null members are removed, the same members are given. -/
theorem given?_without (name : String) : (members.without removed).given? name = members.given? name := by
  by_cases gone : name ∈ removed
  · rw [absent name gone, given?, lookup_without, if_pos gone]
    rfl
  · rw [given?, lookup_without, if_neg gone, given?]

theorem namesRecord_without : (members.without removed).namesRecord = members.namesRecord := by
  simp only [namesRecord, given?_without absent]

/-- A null href gives no text, just as none does. -/
theorem href_without :
    (Json.lookup "href" (members.without removed)).bind Json.string? =
      (Json.lookup "href" members).bind Json.string? := by
  rw [lookup_without]
  split
  · next gone =>
      cases found : Json.lookup "href" members with
      | none => rfl
      | some held =>
          rw [given?_eq_none_iff.mp (absent "href" gone) held found]
          rfl
  · rfl

end Absent

end Members

namespace TargetReader

variable (reader : TargetReader) (address : Address) (action : String) (identifying : List String)

/-- A null id stands in the way of a look-up: no href gives the record, and an identifying attribute
is given. -/
structure NullIdBlocks (members : Members) : Prop where
  nullId : Json.lookup "id" members = some .null
  noHref : ∀ href, Json.lookup "href" members = some (.string href) →
    reader.hrefId? address href = none
  searched : ∃ name value, members.IsFirst identifying name value

section Element

variable {reader address identifying} {removed : List String} {members : Members}

theorem elementId_of_null (nullId : Json.lookup "id" members = some .null)
    (noHref : ∀ href, Json.lookup "href" members = some (.string href) →
      reader.hrefId? address href = none) :
    reader.elementId address identifying members = .error (.invalidId .null) := by
  simp only [elementId, href_eq_none_iff.mpr noHref, nullId]
  rfl

/-- A look-up that fails is a bad request where there is nothing to look up by. -/
theorem kind_of_attributeId {collection : String} {fault : Fault}
    (failed : reader.attributeId collection members identifying = .error fault) :
    fault.kind = .badRequest ↔ ¬ ∃ name value, members.IsFirst identifying name value := by
  simp only [← Members.findSome?_given_eq_some_iff]
  dsimp only [attributeId] at failed
  split at failed
  · next nothing =>
      cases failed
      simp [nothing, Fault.kind]
  · next name value given =>
      split at failed
      · cases failed
      · cases failed
        simp [given, Fault.kind]

section Absent

variable (absent : ∀ name ∈ removed, members.given? name = none)
include absent

theorem attributeId_without (collection : String) :
    reader.attributeId collection (members.without removed) identifying =
      reader.attributeId collection members identifying := by
  simp only [attributeId, Members.given?_without absent]

/-- Only the removal of a null id can show, and only where no href gives the record. -/
theorem elementId_without
    (kept : (∀ href, Json.lookup "href" members = some (.string href) →
        reader.hrefId? address href = none) →
      "id" ∈ removed → Json.lookup "id" members = none) :
    reader.elementId address identifying (members.without removed) =
      reader.elementId address identifying members := by
  rw [← href_eq_none_iff] at kept
  dsimp only [elementId]
  rw [Members.href_without absent]
  generalize ((Json.lookup "href" members).bind Json.string?).bind (reader.hrefId? address) = href
    at kept
  cases href with
  | some given => rfl
  | none => rw [Members.lookup_without_of_kept (kept rfl), attributeId_without absent]

/-- Without its null id, an element without a usable href is looked up. -/
theorem elementId_without_null (gone : "id" ∈ removed)
    (noHref : ∀ href, Json.lookup "href" members = some (.string href) →
      reader.hrefId? address href = none) :
    reader.elementId address identifying (members.without removed) =
      reader.attributeId (address.targetCollection.getD "") members identifying := by
  have noId : Json.lookup "id" (members.without removed) = none := by
    rw [Members.lookup_without, if_pos gone]
  simp only [elementId, Members.href_without absent, href_eq_none_iff.mpr noHref, noId,
    attributeId_without absent]

end Absent

end Element

section Outcome

variable {reader address action identifying} {removed : List String} {members : Members}

/-- A look-up that takes the place of a null id agrees with it where there is nothing to look up by. -/
theorem agrees_of_attributeId {collection : String} :
    (match reader.attributeId collection members identifying with
      | .ok id => Outcome.target id
      | .error fault => .failed fault).Agrees (.failed (.invalidId .null)) ↔
      ¬ ∃ name value, members.IsFirst identifying name value := by
  cases looked : reader.attributeId collection members identifying with
  | ok id =>
      obtain ⟨name, value, first, -⟩ := attributeId_eq_ok_iff.mp looked
      refine iff_of_false (fun agrees => ?_) (not_not_intro ⟨name, value, first⟩)
      cases agrees.target
  | error fault =>
      rw [← kind_of_attributeId looked]
      constructor
      · intro agrees
        exact Option.some.inj agrees.failure
      · intro same
        exact ⟨rfl, rfl, congrArg some same⟩

/-- Without some of its null members an element agrees with itself, unless one of them is a null id
that stands in the way of a look-up. -/
theorem outcome_without_agrees_iff (absent : ∀ name ∈ removed, members.given? name = none)
    (index : Nat) :
    (reader.outcome address action identifying index (.object (members.without removed))).Agrees
        (reader.outcome address action identifying index (.object members)) ↔
      ¬ (isCreation action = false ∧ "id" ∈ removed ∧
        reader.NullIdBlocks address identifying members) := by
  cases making : isCreation action with
  | true =>
      simp only [outcome, making, ↓reduceIte, Members.namesRecord_without absent]
      exact iff_of_true (.refl _) (by simp)
  | false =>
      simp only [outcome, making, Bool.false_eq_true, ↓reduceIte, true_and]
      by_cases read : "id" ∈ removed ∧ Json.lookup "id" members = some .null ∧
          ∀ href, Json.lookup "href" members = some (.string href) →
            reader.hrefId? address href = none
      · -- The null id is read in the one element, and the attributes are in the other.
        obtain ⟨gone, nullId, noHref⟩ := read
        rw [elementId_of_null nullId noHref, elementId_without_null absent gone noHref]
        refine agrees_of_attributeId.trans (not_congr ⟨fun searched => ?_, fun blocked => ?_⟩)
        · exact ⟨gone, nullId, noHref, searched⟩
        · exact blocked.2.searched
      · have kept : (∀ href, Json.lookup "href" members = some (.string href) →
            reader.hrefId? address href = none) →
            "id" ∈ removed → Json.lookup "id" members = none := by
          intro noHref gone
          by_contra present
          obtain ⟨held, found⟩ := Option.ne_none_iff_exists'.mp present
          have null := Members.given?_eq_none_iff.mp (absent "id" gone) held found
          exact read ⟨gone, null ▸ found, noHref⟩
        rw [elementId_without absent kept]
        refine iff_of_true (.refl _) ?_
        rintro ⟨gone, blocked⟩
        exact read ⟨gone, blocked.nullId, blocked.noHref⟩

end Outcome

/-- Every element of a list has its own outcome, numbered by its place. -/
theorem outcomesFrom_append_cons (before : List Json) (element : Json) (after : List Json) :
    reader.outcomesFrom address action identifying 0 (before ++ element :: after) =
      reader.outcomesFrom address action identifying 0 before ++
        reader.outcome address action identifying before.length element ::
          reader.outcomesFrom address action identifying (before.length + 1) after := by
  simp only [outcomesFrom, List.zipIdx_append, List.zipIdx_cons, List.map_append, List.map_cons,
    Nat.zero_add]

/-- Null members may be left out of an element of a bulk request. The other elements keep their
outcomes, and so does the element itself: it is a new record, a target or a failure of a kind as it was
before. The exception is a null id where an identifying attribute is given and no href counts, which
fails the element instead of being passed over. -/
theorem read_without_agrees_iff {verb : Verb} (keeps : verb ≠ .delete) {body shorter : Json}
    {before after : List Json} {members : Members} {removed : List String}
    (listed : Json.member? "resources" body = some (.array (before ++ .object members :: after)))
    (left : Json.member? "resources" shorter =
      some (.array (before ++ .object (members.without removed) :: after)))
    (null : ∀ name ∈ removed, Json.lookup name members = some .null) :
    let earlier := reader.outcomesFrom address action identifying 0 before
    let later := reader.outcomesFrom address action identifying (before.length + 1) after
    let whole := reader.outcome address action identifying before.length (.object members)
    let rest := reader.outcome address action identifying before.length
      (.object (members.without removed))
    reader.read verb address action identifying (some body) =
        .ok (.ofOutcomes (earlier ++ whole :: later)) ∧
      reader.read verb address action identifying (some shorter) =
        .ok (.ofOutcomes (earlier ++ rest :: later)) ∧
      (rest.Agrees whole ↔ ¬ (isCreation action = false ∧ "id" ∈ removed ∧
        reader.NullIdBlocks address identifying members)) := by
  intro earlier later whole rest
  have absent : ∀ name ∈ removed, members.given? name = none := by
    intro name gone
    rw [Members.given?_eq_none_iff, null name gone]
    rintro held ⟨⟩
    rfl
  refine ⟨?_, ?_, outcome_without_agrees_iff absent before.length⟩
  · rw [read_of_resources reader address action identifying keeps listed, outcomesFrom_append_cons]
  · rw [read_of_resources reader address action identifying keeps left, outcomesFrom_append_cons]

/-- An element with a name, and with members for its id and its href that are null. -/
def unnumbered : Members := [("href", .null), ("id", .null), ("name", .string "web")]

/-- The null href may be left out. -/
theorem read_without_null_href :
    let reader := underApi.withIdentity byName
    let outcome (members : Members) :=
      reader.outcome (.ofCollection "machines") "start" ["name"] 1 (.object members)
    reader.read .post (.ofCollection "machines") "start" ["name"]
        (some (batch [.string "web", .object (unnumbered.without ["href"])])) =
        .ok (.ofOutcomes [.failed (.elementNotObject 0), outcome (unnumbered.without ["href"])]) ∧
      (outcome (unnumbered.without ["href"])).Agrees (outcome unnumbered) := by
  have listed (members : Members) :
      Json.member? "resources" (batch [.string "web", .object members]) =
        some (.array ([.string "web"] ++ .object members :: [])) := rfl
  obtain ⟨-, read, agrees⟩ := read_without_agrees_iff (underApi.withIdentity byName)
    (.ofCollection "machines") "start" ["name"] (by decide : Verb.post ≠ .delete)
    (listed unnumbered) (listed (unnumbered.without ["href"])) (fun name gone => by
      obtain rfl := List.mem_singleton.mp gone
      rfl)
  exact ⟨read, agrees.mpr fun blocked => absurd blocked.2.1 (by decide)⟩

/-- The null id may not: with it the element fails, and without it the element names a record. -/
theorem read_without_null_id :
    let reader := underApi.withIdentity byName
    let read (members : Members) := (reader.read .post (.ofCollection "machines") "start" ["name"]
      (some (batch [.object members]))).toOption.map fun targets =>
        (targets.ids, targets.failures.map fun failure => (failure.index, failure.fault.kind))
    Json.lookup "id" unnumbered = some .null ∧
      read unnumbered = some ([], [(0, .badRequest)]) ∧
      read (unnumbered.without ["id"]) = some (["web-1"], []) := by
  refine ⟨rfl, ?_, ?_⟩
  · decide +kernel
  · decide +kernel

end TargetReader

end ResourceRouter
