import ResourceRouter.Proofs.Stage
import ResourceRouter.Proofs.Targets.Bulk
import ResourceRouter.Proofs.Targets.Element
import ResourceRouter.Proofs.Text.Numeral

set_option autoImplicit false

/-!
Where the ids of targets come from. An element has its id in ASCII digits from its href or from its
own id, or it is looked up by the first identifying attribute that is given. Nothing else of what is
known about records can show in the targets.
-/

namespace ResourceRouter

namespace TargetReader

variable (reader : TargetReader) (address : Address) (action : String) (identifying : List String)

/-- The reader with another way to find records. -/
def withIdentity (identity : Identity) : TargetReader := { reader with identity := identity }

/-- An element whose record is looked up: it has no href to a record of the request's collection and
no id, so its first identifying attribute is asked for. -/
inductive Asks : Json → String → Json → Prop
  | asked {members : Members} {name : String} {value : Json}
      (existing : isCreation action = false)
      (noHref : ∀ href, Json.lookup "href" members = some (.string href) →
        reader.hrefId? address href = none)
      (noId : Json.lookup "id" members = none) (first : members.IsFirst identifying name value) :
      Asks (.object members) name value

section Element

variable {reader address identifying} {members : Members}

theorem elementId_withIdentity {identity : Identity}
    (same : (∀ href, Json.lookup "href" members = some (.string href) →
        reader.hrefId? address href = none) → Json.lookup "id" members = none →
      ∀ name value, members.IsFirst identifying name value →
        identity.find? (address.targetCollection.getD "") name value =
          reader.identity.find? (address.targetCollection.getD "") name value) :
    (reader.withIdentity identity).elementId address identifying members =
      reader.elementId address identifying members := by
  have sameHref : (reader.withIdentity identity).hrefId? address = reader.hrefId? address := rfl
  have sameOwn : (reader.withIdentity identity).explicitId = reader.explicitId := rfl
  rw [← href_eq_none_iff] at same
  dsimp only [elementId]
  rw [sameHref, sameOwn]
  generalize ((Json.lookup "href" members).bind Json.string?).bind (reader.hrefId? address) = href
    at same
  cases href with
  | some given => rfl
  | none =>
      cases own : Json.lookup "id" members with
      | some value => rfl
      | none =>
          dsimp only [attributeId]
          split
          · rfl
          · next name value given =>
              have first := Members.findSome?_given_eq_some_iff.mp given
              have answers : (reader.withIdentity identity).identity.find?
                  (address.targetCollection.getD "") name value =
                    reader.identity.find? (address.targetCollection.getD "") name value :=
                same rfl own name value first
              rw [answers]

end Element

section Outcome

variable {reader address action identifying} {index : Nat} {element : Json}

/-- The id of a target is written in ASCII digits, or it was asked for. -/
theorem source_of_outcome {id : String}
    (taken : reader.outcome address action identifying index element = .target id) :
    RecordId.isNumeric id = true ∨
      ∃ name value, reader.Asks address action identifying element name value ∧
        reader.identity.find? (address.targetCollection.getD "") name value = some id := by
  cases element with
  | object members =>
      obtain ⟨existing, named⟩ := outcome_eq_target_iff.mp taken
      rcases elementId_eq_ok_iff.mp named with
        ⟨href, -, given⟩ | ⟨noHref, ⟨value, -, own⟩ | ⟨noId, looked⟩⟩
      · exact .inl (hrefId?_eq_some_iff.mp given).2.2.2
      · exact .inl (explicitId_eq_ok_iff.mp own).2
      · obtain ⟨name, value, first, found⟩ := attributeId_eq_ok_iff.mp looked
        exact .inr ⟨name, value, .asked existing noHref noId first, found⟩
  | _ => cases taken

/-- Another way to find records gives an element the same outcome if it answers the same where the
element asks. -/
theorem outcome_withIdentity {identity : Identity}
    (same : ∀ name value, reader.Asks address action identifying element name value →
      identity.find? (address.targetCollection.getD "") name value =
        reader.identity.find? (address.targetCollection.getD "") name value) :
    (reader.withIdentity identity).outcome address action identifying index element =
      reader.outcome address action identifying index element := by
  cases element with
  | object members =>
      cases existing : isCreation action with
      | true => simp only [outcome, existing, ↓reduceIte]
      | false =>
          have asked := fun noHref noId name value first =>
            same name value (.asked existing noHref noId first)
          simp only [outcome, existing, Bool.false_eq_true, ↓reduceIte,
            elementId_withIdentity asked]
  | _ => rfl

end Outcome

section Read

variable {reader address action identifying} {verb : Verb} {body : Option Json} {targets : Targets}

theorem resources?_eq_some_iff {value : Json} :
    resources? verb body = some value ↔
      verb ≠ .delete ∧ body.bind (Json.member? "resources") = some value := by
  unfold resources?
  split
  · next deletes => simp [deletes]
  · next keeps => simp [keeps]

/-- Only an array of resources makes a bulk request. -/
theorem read_eq_ok_of_bulk
    (succeeds : reader.read verb address action identifying body = .ok targets)
    (bulk : targets.isBulk = true) :
    ∃ elements, resources? verb body = some (.array elements) ∧
      targets = .ofOutcomes (reader.outcomesFrom address action identifying 0 elements) := by
  unfold read at succeeds
  split at succeeds
  · -- A single record has no bulk targets.
    unfold readSingle at succeeds
    split at succeeds
    · split at succeeds
      · cases succeeds
      · cases succeeds
        cases bulk
    · cases succeeds
      cases bulk
  · next elements listed =>
      cases succeeds
      exact ⟨elements, listed, rfl⟩
  · cases succeeds

theorem exists_of_mem_ids {elements : List Json} {id : String}
    (listed : id ∈ (Targets.ofOutcomes
      (reader.outcomesFrom address action identifying 0 elements)).ids) :
    ∃ index element, elements[index]? = some element ∧
      reader.outcome address action identifying index element = .target id := by
  obtain ⟨outcome, made, taken⟩ := List.mem_filterMap.mp listed
  obtain ⟨⟨element, index⟩, numbered, rfl⟩ := List.mem_map.mp made
  refine ⟨index, element, List.mem_zipIdx_iff_getElem?.mp numbered, ?_⟩
  dsimp only at taken ⊢
  generalize reader.outcome address action identifying index element = result at taken
  cases result <;> cases taken
  rfl

end Read

/-- In a bulk request, every target id is a numeral or the answer that was given when its element
asked for its first identifying attribute. With another way to find records, an element has another
outcome only if it asks, and then only if the answer differs. -/
theorem read_provenance {verb : Verb} {body : Option Json} {targets : Targets}
    (succeeds : reader.read verb address action identifying body = .ok targets)
    (bulk : targets.isBulk = true) :
    ∃ elements, verb ≠ .delete ∧ body.bind (Json.member? "resources") = some (.array elements) ∧
      targets = .ofOutcomes (reader.outcomesFrom address action identifying 0 elements) ∧
      (∀ id ∈ targets.ids, ∃ index element, elements[index]? = some element ∧
        reader.outcome address action identifying index element = .target id ∧
        ((id ≠ "" ∧ ∀ c ∈ id.toList, c.isDigit = true) ∨
          ∃ name value, reader.Asks address action identifying element name value ∧
            reader.identity.find? (address.targetCollection.getD "") name value = some id)) ∧
      ∀ identity,
        (reader.withIdentity identity).read verb address action identifying body =
          .ok (.ofOutcomes ((reader.withIdentity identity).outcomesFrom address action identifying 0
            elements)) ∧
        ∀ index element, elements[index]? = some element →
          (∀ name value, reader.Asks address action identifying element name value →
            identity.find? (address.targetCollection.getD "") name value =
              reader.identity.find? (address.targetCollection.getD "") name value) →
          (reader.withIdentity identity).outcome address action identifying index element =
            reader.outcome address action identifying index element := by
  obtain ⟨elements, listed, rfl⟩ := read_eq_ok_of_bulk succeeds bulk
  obtain ⟨keeps, present⟩ := resources?_eq_some_iff.mp listed
  refine ⟨elements, keeps, present, rfl, fun id isTarget => ?_, fun identity => ⟨?_, ?_⟩⟩
  · obtain ⟨index, element, place, taken⟩ := exists_of_mem_ids isTarget
    refine ⟨index, element, place, taken, ?_⟩
    rcases source_of_outcome taken with numeric | asked
    · left
      obtain ⟨nonempty, digits⟩ := Text.isNumeral_iff.mp numeric
      exact ⟨fun empty => nonempty (by rw [empty, String.toList_empty]), digits⟩
    · exact .inr asked
  · simp only [read, listed]
  · intro index element _ same
    exact outcome_withIdentity same

/-- Finds one record by whatever name, in whatever collection. -/
def byName : Identity where
  find? _ name _ := if name = "name" then some "web-1" else none

/-- An element with a name, and one with a name and an id. -/
def namedElements : List Json :=
  [.object [("name", .string "web")], .object [("id", .string "0r7"), ("name", .string "web")]]

theorem read_provenance_named :
    ∃ targets,
      (underApi.withIdentity byName).read .post (.ofCollection "machines") "start" ["name"]
        (some (batch namedElements)) = .ok targets ∧
      targets.isBulk = true ∧ targets.ids = ["web-1", "7"] ∧
      ∀ identity,
        ((underApi.withIdentity byName).withIdentity identity).outcome (.ofCollection "machines")
            "start" ["name"] 1 (.object [("id", .string "0r7"), ("name", .string "web")]) =
          (underApi.withIdentity byName).outcome (.ofCollection "machines") "start" ["name"] 1
            (.object [("id", .string "0r7"), ("name", .string "web")]) := by
  have succeeds : (underApi.withIdentity byName).read .post (.ofCollection "machines") "start"
      ["name"] (some (batch namedElements)) = .ok (.ofOutcomes
        ((underApi.withIdentity byName).outcomesFrom (.ofCollection "machines") "start" ["name"] 0
          namedElements)) := rfl
  obtain ⟨elements, -, listed, -, -, others⟩ := read_provenance (underApi.withIdentity byName)
    (.ofCollection "machines") "start" ["name"] succeeds rfl
  refine ⟨_, succeeds, rfl, by decide +kernel, fun identity => ?_⟩
  apply (others identity).2 1
  · cases listed
    rfl
  · -- The element has an id, so it asks for nothing.
    rintro name value (⟨_, _, noId, _⟩)
    cases noId

end TargetReader

end ResourceRouter
