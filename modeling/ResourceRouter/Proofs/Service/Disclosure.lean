import ResourceRouter.Proofs.Service.Pipeline

set_option autoImplicit false

/-!
What a failed request discloses. Records are looked up before dispatch decides, so a caller without
permission could learn of them if a look-up that finds nothing failed the request. It only fails its
element: what is known about records and types never shows in the fault of a refused request.
-/

namespace ResourceRouter

/-- The request with another filter and another selection. -/
def Request.withQuery (request : Request) (filters selection : List String) : Request :=
  { request with filters := filters, selection := selection }

namespace TargetReader

variable {verb : Verb} {address : Address} {action : String} {identifying : List String}
variable {body : Option Json} {fault : Fault}

/-- Reading the targets fails for what the request as a whole says, before any element is read. -/
theorem read_eq_error_iff (reader : TargetReader) :
    reader.read verb address action identifying body = .error fault ↔
      resources? verb body = none ∧ readSingle address action body = .error fault ∨
        ∃ value, resources? verb body = some value ∧ (∀ elements, value ≠ .array elements) ∧
          fault = .resourcesNotArray := by
  unfold read
  split
  · next absent => simp [absent]
  · next elements given => simp [given]
  · next value notArray given =>
      have shape : ∀ elements, value ≠ .array elements := notArray
      simp [given, shape, eq_comm]

theorem read_eq_error_congr (first second : TargetReader) :
    first.read verb address action identifying body = .error fault ↔
      second.read verb address action identifying body = .error fault := by
  rw [first.read_eq_error_iff, second.read_eq_error_iff]

end TargetReader

namespace Service

variable {service : Service} {request : Request} {permissions : Permissions}

theorem readTargets_withIdentity_error (identity : Identity) (address : Address) (fault : Fault) :
    (service.withIdentity identity).readTargets address request = .error fault ↔
      service.readTargets address request = .error fault :=
  TargetReader.read_eq_error_congr _ _

theorem readTargets_withIdentity_ok (identity : Identity) (address : Address) :
    (∃ targets, (service.withIdentity identity).readTargets address request = .ok targets) ↔
      ∃ targets, service.readTargets address request = .ok targets := by
  rw [Stage.exists_ok_iff, Stage.exists_ok_iff]
  refine forall_congr' fun fault => ?_
  exact not_congr (readTargets_withIdentity_error identity address fault)

/-- A request that fails with one way to find records fails with every other, for the same fault. -/
theorem prepare_withIdentity_error (first second : Identity) {fault : Fault}
    (failed : (service.withIdentity first).prepare request permissions = .error fault) :
    (service.withIdentity second).prepare request permissions = .error fault := by
  -- Only the stage that reads targets meets the identity; the others are the same for both.
  rw [prepare_eq_error_iff] at failed ⊢
  rcases failed with versioned | ⟨versioned, unread | ⟨targets, read, later⟩⟩
  · exact .inl versioned
  · have own := (readTargets_withIdentity_error first _ fault).mp unread
    exact .inr ⟨versioned, .inl ((readTargets_withIdentity_error second _ fault).mpr own)⟩
  · have own := (readTargets_withIdentity_ok first _).mp ⟨targets, read⟩
    obtain ⟨others, same⟩ := (readTargets_withIdentity_ok second _).mpr own
    exact .inr ⟨versioned, .inr ⟨others, same, later⟩⟩

/-- A request that dispatch refuses fails before filter, selection or types are looked at. -/
theorem exists_fault_of_resolve {refusal : Fault}
    (refused : service.dispatcher.resolve request.verb (service.locator.parse request.path)
      request.explicitAction permissions = .error refusal) :
    ∃ fault, ∀ identity schema filters selection,
      ((service.withIdentity identity).withSchema schema).prepare
        (request.withQuery filters selection) permissions = .error fault := by
  cases versioned : service.checkVersion (service.locator.parse request.path) with
  | error fault =>
      refine ⟨fault, fun identity schema filters selection => ?_⟩
      exact prepare_eq_error_iff.mpr (.inl versioned)
  | ok _ =>
      cases read : service.readTargets (service.locator.parse request.path) request with
      | error fault =>
          refine ⟨fault, fun identity schema filters selection => ?_⟩
          have same := (readTargets_withIdentity_error identity _ fault).mpr read
          exact prepare_eq_error_iff.mpr (.inr ⟨versioned, .inl same⟩)
      | ok targets =>
          refine ⟨refusal, fun identity schema filters selection => ?_⟩
          obtain ⟨others, same⟩ := (readTargets_withIdentity_ok identity _).mpr ⟨targets, read⟩
          exact prepare_eq_error_iff.mpr (.inr ⟨versioned, .inr ⟨others, same, .inl refused⟩⟩)

/-- A failed request tells nothing of records: with other records it fails with the same fault, or
succeeds with both. A request that dispatch refuses tells nothing of types either, whatever its filter
and selection ask. -/
theorem prepare_discloses_nothing (service : Service) (request : Request)
    (permissions : Permissions) :
    (∀ first second fault,
      (service.withIdentity first).prepare request permissions = .error fault ↔
        (service.withIdentity second).prepare request permissions = .error fault) ∧
    ∀ refusal,
      service.dispatcher.resolve request.verb (service.locator.parse request.path)
        request.explicitAction permissions = .error refusal →
      ∃ fault, ∀ identity schema filters selection,
        ((service.withIdentity identity).withSchema schema).prepare
          (request.withQuery filters selection) permissions = .error fault := by
  constructor
  · intro first second fault
    exact ⟨prepare_withIdentity_error first second, prepare_withIdentity_error second first⟩
  · intro refusal refused
    exact exists_fault_of_resolve refused

/-- Without a permission, the assignment of tags is refused in the same way whatever it asks about
them and whatever is known of them. -/
theorem prepare_discloses_nothing_assignment :
    ∃ refusal fault,
      machines.dispatcher.resolve assignment.verb (machines.locator.parse assignment.path)
        assignment.explicitAction .nothing = .error refusal ∧
      fault.kind = .forbidden ∧
      ∀ identity schema filters selection,
        ((machines.withIdentity identity).withSchema schema).prepare
          (assignment.withQuery filters selection) .nothing = .error fault := by
  cases resolved : machines.dispatcher.resolve assignment.verb
      (machines.locator.parse assignment.path) assignment.explicitAction .nothing with
  | ok decision =>
      have refused : (machines.dispatcher.resolve assignment.verb
          (machines.locator.parse assignment.path) assignment.explicitAction
          .nothing).toOption.isNone = true := by
        decide +kernel
      rw [resolved] at refused
      cases refused
  | error refusal =>
      obtain ⟨fault, same⟩ :=
        (prepare_discloses_nothing machines assignment .nothing).2 refusal resolved
      have own : machines.prepare assignment .nothing = .error fault :=
        same machines.identity machines.schema assignment.filters assignment.selection
      have kind : (match machines.prepare assignment .nothing with
          | .error fault => fault.kind == .forbidden
          | .ok _ => false) = true := by
        decide +kernel
      rw [own] at kind
      exact ⟨refusal, fault, rfl, by simpa using kind, same⟩

end Service

end ResourceRouter
