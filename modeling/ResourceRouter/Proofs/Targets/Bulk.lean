import Mathlib.Data.List.Basic
import ResourceRouter.Targets.Reader

set_option autoImplicit false

/-!
Bulk requests, element by element. No element is lost or counted twice, a failure keeps the place of
its element, and two runs of elements in one request have the targets of two requests: no element
sees its neighbours.
-/

namespace ResourceRouter

/-- A fault quotes no position but that of an element, which moves with the element. -/
def Fault.shifted (offset : Nat) : Fault → Fault
  | .elementNotObject index => .elementNotObject (index + offset)
  | fault => fault

def Outcome.shifted (offset : Nat) : Outcome → Outcome
  | .failed fault => .failed (fault.shifted offset)
  | outcome => outcome

def Failure.shifted (offset : Nat) (failure : Failure) : Failure :=
  ⟨failure.index + offset, failure.fault.shifted offset⟩

/-- The targets of a run of elements and of a second run that starts at an offset. -/
def Targets.append (first : Targets) (offset : Nat) (second : Targets) : Targets where
  isBulk := first.isBulk
  ids := first.ids ++ second.ids
  failures := first.failures ++ second.failures.map (Failure.shifted offset)
  created := first.created + second.created

namespace Outcome

variable (offset : Nat) (outcome : Outcome)

@[simp] theorem id?_shifted : (outcome.shifted offset).id? = outcome.id? := by
  cases outcome <;> rfl

@[simp] theorem isCreated_shifted : (outcome.shifted offset).isCreated = outcome.isCreated := by
  cases outcome <;> rfl

@[simp] theorem fault?_shifted :
    (outcome.shifted offset).fault? = outcome.fault?.map (Fault.shifted offset) := by
  cases outcome <;> rfl

end Outcome

namespace Targets

theorem failuresFrom_cons (index : Nat) (outcome : Outcome) (rest : List Outcome) :
    failuresFrom index (outcome :: rest) =
      (outcome.fault?.map (Failure.mk index)).toList ++ failuresFrom (index + 1) rest := by
  simp only [failuresFrom, List.zipIdx_cons, List.filterMap_cons]
  cases outcome.fault? <;> rfl

theorem failuresFrom_append (index : Nat) (first second : List Outcome) :
    failuresFrom index (first ++ second) =
      failuresFrom index first ++ failuresFrom (index + first.length) second := by
  simp only [failuresFrom, List.zipIdx_append, List.filterMap_append]

theorem failuresFrom_shifted (offset index : Nat) (outcomes : List Outcome) :
    failuresFrom (index + offset) (outcomes.map (Outcome.shifted offset)) =
      (failuresFrom index outcomes).map (Failure.shifted offset) := by
  induction outcomes generalizing index with
  | nil => rfl
  | cons outcome rest ih =>
      have next : index + offset + 1 = index + 1 + offset := by omega
      rw [List.map_cons, failuresFrom_cons, failuresFrom_cons, List.map_append, next, ih,
        Outcome.fault?_shifted]
      cases outcome.fault? <;> rfl

theorem index_of_mem_failuresFrom {index : Nat} {outcomes : List Outcome} {failure : Failure}
    (listed : failure ∈ failuresFrom index outcomes) :
    index ≤ failure.index ∧ failure.index < index + outcomes.length := by
  obtain ⟨⟨outcome, place⟩, numbered, failed⟩ := List.mem_filterMap.mp listed
  obtain ⟨fault, -, rfl⟩ := Option.map_eq_some_iff.mp failed
  obtain ⟨lower, upper, -⟩ := List.mem_zipIdx numbered
  exact ⟨lower, upper⟩

theorem pairwise_failuresFrom (index : Nat) (outcomes : List Outcome) :
    (failuresFrom index outcomes).Pairwise fun earlier later => earlier.index < later.index := by
  induction outcomes generalizing index with
  | nil => exact List.Pairwise.nil
  | cons outcome rest ih =>
      rw [failuresFrom_cons]
      cases outcome.fault? with
      | none => exact ih (index + 1)
      | some fault =>
          refine List.pairwise_cons.mpr ⟨fun later listed => ?_, ih (index + 1)⟩
          have bounds := index_of_mem_failuresFrom listed
          change index < later.index
          omega

/-- Every outcome is counted in one place. -/
theorem length_ofOutcomes (outcomes : List Outcome) :
    (ofOutcomes outcomes).ids.length + (ofOutcomes outcomes).failures.length +
      (ofOutcomes outcomes).created = outcomes.length := by
  suffices counted : ∀ index, (outcomes.filterMap Outcome.id?).length +
      (failuresFrom index outcomes).length + outcomes.countP Outcome.isCreated =
        outcomes.length from counted 0
  induction outcomes with
  | nil => intro index; rfl
  | cons outcome rest ih =>
      intro index
      have counted := ih (index + 1)
      rw [failuresFrom_cons, List.length_append, List.length_cons]
      cases outcome with
      | created =>
          rw [List.filterMap_cons_none rfl, List.countP_cons_of_pos rfl]
          change _ + (0 + _) + _ = _
          omega
      | target id =>
          rw [List.countP_cons_of_neg Bool.false_ne_true]
          change _ + 1 + (0 + _) + _ = _
          omega
      | failed fault =>
          rw [List.filterMap_cons_none rfl, List.countP_cons_of_neg Bool.false_ne_true]
          change _ + (1 + _) + _ = _
          omega

theorem ofOutcomes_append (first second : List Outcome) :
    ofOutcomes (first ++ second.map (Outcome.shifted first.length)) =
      (ofOutcomes first).append first.length (ofOutcomes second) := by
  have moved := failuresFrom_shifted first.length 0 second
  have ids : (second.map (Outcome.shifted first.length)).filterMap Outcome.id? =
      second.filterMap Outcome.id? := by
    simp [List.filterMap_map]
  have created : (second.map (Outcome.shifted first.length)).countP Outcome.isCreated =
      second.countP Outcome.isCreated := by
    simp [List.countP_map, Function.comp_def]
  simp only [ofOutcomes, append, List.filterMap_append, failuresFrom_append, List.countP_append,
    ids, created, moved]

end Targets

namespace TargetReader

variable (reader : TargetReader) (address : Address) (action : String) (identifying : List String)

theorem fault_of_explicitId {value : Json} {fault : Fault}
    (failed : reader.explicitId value = .error fault) : fault = .invalidId value := by
  dsimp only [explicitId] at failed
  split at failed
  · cases failed
  · exact (Except.error.inj failed).symm

theorem fault_of_attributeId {collection : String} {members : Members} {fault : Fault}
    (failed : reader.attributeId collection members identifying = .error fault) :
    fault = .unidentifiedElement collection ∨
      ∃ name value, fault = .recordNotFound collection name value := by
  dsimp only [attributeId] at failed
  split at failed
  · exact .inl (Except.error.inj failed).symm
  · split at failed
    · cases failed
    · exact .inr ⟨_, _, (Except.error.inj failed).symm⟩

/-- No fault of an element that is an object quotes a position. -/
theorem shifted_of_elementId {members : Members} {fault : Fault} (offset : Nat)
    (failed : reader.elementId address identifying members = .error fault) :
    fault.shifted offset = fault := by
  dsimp only [elementId] at failed
  split at failed
  · cases failed
  · rw [fault_of_explicitId reader failed]
    rfl
  · rcases fault_of_attributeId reader identifying failed with rfl | ⟨name, value, rfl⟩ <;> rfl

/-- The place of an element shows in nothing but the position that its fault quotes. -/
theorem outcome_shifted (offset index : Nat) (element : Json) :
    reader.outcome address action identifying (index + offset) element =
      (reader.outcome address action identifying index element).shifted offset := by
  cases element with
  | object members =>
      simp only [outcome]
      split
      · split <;> rfl
      · split
        · rfl
        · rename_i fault failed
          rw [Outcome.shifted, shifted_of_elementId reader address identifying offset failed]
  | _ => rfl

theorem outcomesFrom_append (first second : List Json) :
    reader.outcomesFrom address action identifying 0 (first ++ second) =
      reader.outcomesFrom address action identifying 0 first ++
        (reader.outcomesFrom address action identifying 0 second).map
          (Outcome.shifted first.length) := by
  simp only [outcomesFrom, List.zipIdx_append, List.map_append, List.map_map, Nat.zero_add]
  congr 1
  rw [List.zipIdx_eq_map_add, List.map_map]
  apply List.map_congr_left
  intro entry _
  simp only [Function.comp_apply]
  rw [← outcome_shifted, Nat.add_comm]

@[simp] theorem length_outcomesFrom (index : Nat) (elements : List Json) :
    (reader.outcomesFrom address action identifying index elements).length = elements.length := by
  simp only [outcomesFrom, List.length_map, List.length_zipIdx]

theorem id?_outcome_of_creation (making : isCreation action = true) (index : Nat)
    (element : Json) :
    (reader.outcome address action identifying index element).id? = none := by
  cases element with
  | object members =>
      simp only [outcome, making, ↓reduceIte]
      split <;> rfl
  | _ => rfl

theorem isCreated_outcome_of_not_creation (existing : isCreation action = false) (index : Nat)
    (element : Json) :
    (reader.outcome address action identifying index element).isCreated = false := by
  cases element with
  | object members =>
      simp only [outcome, existing, Bool.false_eq_true, ↓reduceIte]
      split <;> rfl
  | _ => rfl

theorem read_of_resources {verb : Verb} (keeps : verb ≠ .delete) {body : Json}
    {elements : List Json} (listed : Json.member? "resources" body = some (.array elements)) :
    reader.read verb address action identifying (some body) =
      .ok (.ofOutcomes (reader.outcomesFrom address action identifying 0 elements)) := by
  simp only [read, resources?, if_neg keeps, Option.bind_some, listed]

/-- A request with an array of resources is a bulk request. Each element has one outcome, at its own
place, and two runs of elements in one request have the outcomes that they have in two. -/
theorem read_bulk {verb : Verb} (keeps : verb ≠ .delete) {body : Json} {elements : List Json}
    (listed : Json.member? "resources" body = some (.array elements)) :
    ∃ targets, reader.read verb address action identifying (some body) = .ok targets ∧
      targets.isBulk = true ∧
      targets.ids.length + targets.failures.length + targets.created = elements.length ∧
      targets.failures.Pairwise (fun earlier later => earlier.index < later.index) ∧
      (∀ failure ∈ targets.failures, failure.index < elements.length) ∧
      (action = "create" ∨ action = "add" → targets.ids = []) ∧
      (action ≠ "create" → action ≠ "add" → targets.created = 0) ∧
      ∀ first second firstBody secondBody, elements = first ++ second →
        Json.member? "resources" firstBody = some (.array first) →
        Json.member? "resources" secondBody = some (.array second) →
        ∃ early late,
          reader.read verb address action identifying (some firstBody) = .ok early ∧
          reader.read verb address action identifying (some secondBody) = .ok late ∧
          targets = early.append first.length late := by
  refine ⟨_, read_of_resources reader address action identifying keeps listed, rfl, ?_, ?_, ?_, ?_,
    ?_, ?_⟩
  · rw [Targets.length_ofOutcomes, length_outcomesFrom]
  · exact Targets.pairwise_failuresFrom 0 _
  · intro failure failed
    have bounds := Targets.index_of_mem_failuresFrom failed
    rw [length_outcomesFrom] at bounds
    omega
  · intro named
    have making : isCreation action = true := by simpa [isCreation] using named
    apply List.filterMap_eq_nil_iff.mpr
    intro outcome made
    obtain ⟨entry, -, rfl⟩ := List.mem_map.mp made
    exact id?_outcome_of_creation reader address action identifying making _ _
  · intro notCreate notAdd
    have existing : isCreation action = false := by simp [isCreation, notCreate, notAdd]
    apply List.countP_eq_zero.mpr
    intro outcome made
    obtain ⟨entry, -, rfl⟩ := List.mem_map.mp made
    rw [isCreated_outcome_of_not_creation reader address action identifying existing]
    exact Bool.false_ne_true
  · intro first second firstBody secondBody split listedFirst listedSecond
    refine ⟨_, _, read_of_resources reader address action identifying keeps listedFirst,
      read_of_resources reader address action identifying keeps listedSecond, ?_⟩
    have joined := Targets.ofOutcomes_append
      (reader.outcomesFrom address action identifying 0 first)
      (reader.outcomesFrom address action identifying 0 second)
    rw [length_outcomesFrom, ← outcomesFrom_append, ← split] at joined
    exact joined

/-- A body with nothing but resources. -/
def batch (elements : List Json) : Json := .object [("resources", .array elements)]

/-- Reads ids and hrefs under `/api`, and finds no record by its attributes. -/
def underApi : TargetReader := ⟨.under "/api" .compressed, .nothing⟩

theorem read_bulk_machines :
    ∃ targets early late,
      underApi.read .post (.ofCollection "machines") "start" [] (some (batch
        [.object [("id", .string "3")], .string "7",
          .object [("href", .string "machines/1r5")]])) = .ok targets ∧
      underApi.read .post (.ofCollection "machines") "start" [] (some (batch
        [.object [("id", .string "3")]])) = .ok early ∧
      underApi.read .post (.ofCollection "machines") "start" [] (some (batch
        [.string "7", .object [("href", .string "machines/1r5")]])) = .ok late ∧
      targets = early.append 1 late ∧ targets.ids = ["3", "1000000000005"] ∧
      targets.failures.map Failure.index = [1] := by
  have listed (elements : List Json) :
      Json.member? "resources" (batch elements) = some (.array elements) := rfl
  obtain ⟨targets, read, -, -, -, -, -, -, splits⟩ := read_bulk underApi
    (.ofCollection "machines") "start" [] (by decide : Verb.post ≠ .delete)
    (listed [.object [("id", .string "3")], .string "7",
      .object [("href", .string "machines/1r5")]])
  obtain ⟨early, late, readEarly, readLate, joined⟩ :=
    splits [.object [("id", .string "3")]] [.string "7", .object [("href", .string "machines/1r5")]]
      _ _ rfl (listed _) (listed _)
  refine ⟨targets, early, late, read, readEarly, readLate, joined, ?_, ?_⟩
  · cases read
    decide +kernel
  · cases read
    rfl

end TargetReader

end ResourceRouter
