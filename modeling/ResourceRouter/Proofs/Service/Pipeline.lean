import ResourceRouter.Proofs.Catalogue.Entries
import ResourceRouter.Proofs.Json.Lookup
import ResourceRouter.Proofs.Stage
import ResourceRouter.Service

set_option autoImplicit false

/-!
The stages of a request. An operation carries what each stage found on its own, the stages around
dispatch only fail with faults of their own kinds, and so nothing but dispatch decides about actions
and permissions.
-/

namespace ResourceRouter

theorem Verb.action_eq_of_ne_post {verb : Verb} (notPost : verb ≠ .post)
    (first second : Option String) : verb.action first = verb.action second := by
  cases verb with
  | post => exact absurd rfl notPost
  | _ => rfl

/-- The request with an object of the given members as its body. -/
def Request.withMembers (request : Request) (members : List (String × Json)) : Request :=
  { request with body := some (.object members) }

/-- Dispatch reads the action that a request names only through the action it stands for. -/
theorem Dispatcher.resolve_congr (dispatcher : Dispatcher) (verb : Verb) (address : Address)
    (permissions : Permissions) {first second : Option String}
    (same : verb.action first = verb.action second) :
    dispatcher.resolve verb address first permissions =
      dispatcher.resolve verb address second permissions := by
  simp only [resolve, same]

namespace Service

variable {service : Service} {request : Request} {permissions : Permissions}

/-- A request succeeds when every stage does, and its operation holds what the stages found. -/
theorem prepare_eq_ok_iff {operation : Operation} :
    service.prepare request permissions = .ok operation ↔
      service.checkVersion (service.locator.parse request.path) = .ok () ∧
      service.readTargets (service.locator.parse request.path) request = .ok operation.targets ∧
      service.dispatcher.resolve request.verb (service.locator.parse request.path)
        request.explicitAction permissions = .ok operation.decision ∧
      service.compileFilter (service.locator.parse request.path) request.filters =
        .ok operation.filter ∧
      service.checkSelection (service.locator.parse request.path) request.selection =
        .ok operation.selection := by
  simp only [prepare, Stage.bind_eq_ok, Stage.pure_eq_ok]
  constructor
  · rintro ⟨⟨⟩, versioned, targets, read, decision, resolved, filter, compiled, selection, checked,
      rfl⟩
    exact ⟨versioned, read, resolved, compiled, checked⟩
  · rintro ⟨versioned, read, resolved, compiled, checked⟩
    exact ⟨(), versioned, _, read, _, resolved, _, compiled, _, checked, rfl⟩

/-- A request fails with the fault of the first stage that does. -/
theorem prepare_eq_error_iff {fault : Fault} :
    service.prepare request permissions = .error fault ↔
      service.checkVersion (service.locator.parse request.path) = .error fault ∨
      service.checkVersion (service.locator.parse request.path) = .ok () ∧
        (service.readTargets (service.locator.parse request.path) request = .error fault ∨
        ∃ targets,
          service.readTargets (service.locator.parse request.path) request = .ok targets ∧
          (service.dispatcher.resolve request.verb (service.locator.parse request.path)
              request.explicitAction permissions = .error fault ∨
          ∃ decision,
            service.dispatcher.resolve request.verb (service.locator.parse request.path)
              request.explicitAction permissions = .ok decision ∧
            (service.compileFilter (service.locator.parse request.path) request.filters =
                .error fault ∨
            ∃ filter,
              service.compileFilter (service.locator.parse request.path) request.filters =
                .ok filter ∧
              service.checkSelection (service.locator.parse request.path) request.selection =
                .error fault))) := by
  simp only [prepare, Stage.bind_eq_error, Stage.pure_ne_error, and_false, exists_false, or_false]
  refine or_congr_right ⟨?_, ?_⟩
  · rintro ⟨⟨⟩, later⟩
    exact later
  · intro later
    exact ⟨(), later⟩

theorem stage_of_prepare_eq_error {fault : Fault}
    (failed : service.prepare request permissions = .error fault) :
    service.checkVersion (service.locator.parse request.path) = .error fault ∨
    service.readTargets (service.locator.parse request.path) request = .error fault ∨
    service.dispatcher.resolve request.verb (service.locator.parse request.path)
      request.explicitAction permissions = .error fault ∨
    service.compileFilter (service.locator.parse request.path) request.filters = .error fault ∨
    service.checkSelection (service.locator.parse request.path) request.selection =
      .error fault := by
  rcases prepare_eq_error_iff.mp failed with failed | ⟨-, failed | ⟨-, -, failed | ⟨-, -, failed |
    ⟨-, -, failed⟩⟩⟩⟩
  · exact .inl failed
  · exact .inr (.inl failed)
  · exact .inr (.inr (.inl failed))
  · exact .inr (.inr (.inr (.inl failed)))
  · exact .inr (.inr (.inr (.inr failed)))

section Kinds

variable {address : Address} {fault : Fault}

theorem kind_of_checkVersion (failed : service.checkVersion address = .error fault) :
    fault.kind = .badRequest := by
  unfold checkVersion at failed
  split at failed
  · cases failed
  · split at failed
    · cases failed
    · cases failed
      rfl

theorem kind_of_readTargets (failed : service.readTargets address request = .error fault) :
    fault.kind = .badRequest := by
  simp only [readTargets, TargetReader.read] at failed
  split at failed
  · unfold TargetReader.readSingle at failed
    split at failed
    · split at failed
      · cases failed
        rfl
      · cases failed
    · cases failed
  · cases failed
  · cases failed
    rfl

theorem kind_of_targetType {purpose : String}
    (failed : service.targetType address purpose = .error fault) : fault.kind = .badRequest := by
  unfold targetType at failed
  split at failed
  · cases failed
  · cases failed
    rfl

theorem kind_of_compileFilter {clauses : List String}
    (failed : service.compileFilter address clauses = .error fault) :
    fault.kind = .badRequest ∨ fault.kind = .invalidFilter := by
  unfold compileFilter at failed
  split at failed
  · cases failed
  · simp only [Stage.bind_eq_error, Stage.mapError_eq_error, Stage.pure_ne_error] at failed
    rcases failed with untyped | ⟨typeName, -, ⟨cause, -, rfl⟩ | ⟨filter, -, impossible⟩⟩
    · exact .inl (kind_of_targetType untyped)
    · exact .inr rfl
    · exact impossible.elim

theorem kind_of_checkSelection {names : List String}
    (failed : service.checkSelection address names = .error fault) : fault.kind = .badRequest := by
  unfold checkSelection at failed
  split at failed
  · cases failed
  · rw [Stage.bind_eq_error] at failed
    rcases failed with untyped | ⟨typeName, -, refused⟩
    · exact kind_of_targetType untyped
    · dsimp only at refused
      split at refused
      · cases refused
      · cases refused
        rfl

end Kinds

/-- The stages before and after dispatch never forbid a request, nor find its action unsupported. -/
theorem resolve_of_prepare_eq_error {fault : Fault}
    (failed : service.prepare request permissions = .error fault)
    (kind : fault.kind = .forbidden ∨ fault.kind = .unsupportedAction) :
    service.dispatcher.resolve request.verb (service.locator.parse request.path)
      request.explicitAction permissions = .error fault := by
  rcases stage_of_prepare_eq_error failed with versioned | read | resolved | compiled | checked
  · rw [kind_of_checkVersion versioned] at kind
    simp at kind
  · rw [kind_of_readTargets read] at kind
    simp at kind
  · exact resolved
  · rcases kind_of_compileFilter compiled with other | other <;> simp [other] at kind
  · rw [kind_of_checkSelection checked] at kind
    simp at kind

/-- Targets are read from the resources, the id and the href of a body, and from the action. -/
theorem readTargets_congr (service : Service) (address : Address) (request : Request)
    {first second : List (String × Json)}
    (action : request.verb.action (request.withMembers first).explicitAction =
      request.verb.action (request.withMembers second).explicitAction)
    (resources : Json.lookup "resources" first = Json.lookup "resources" second)
    (id : Json.lookup "id" first = Json.lookup "id" second)
    (href : Json.lookup "href" first = Json.lookup "href" second) :
    service.readTargets address (request.withMembers first) =
      service.readTargets address (request.withMembers second) := by
  have named : Members.namesRecord first = Members.namesRecord second := by
    simp only [Members.namesRecord, Members.given?, id, href]
  have listed : TargetReader.resources? request.verb (some (.object first)) =
      TargetReader.resources? request.verb (some (.object second)) := by
    simp only [TargetReader.resources?, Option.bind_some, Json.member?, resources]
  simp only [Request.withMembers] at action ⊢
  simp only [readTargets, action, TargetReader.read, listed, TargetReader.readSingle, named]

/-- Except in a POST request, nothing reads the action of a body. -/
theorem prepare_congr_of_ne_post (service : Service) (permissions : Permissions)
    {request : Request} (notPost : request.verb ≠ .post) {first second : List (String × Json)}
    (same : ∀ name, name ≠ "action" → Json.lookup name first = Json.lookup name second) :
    service.prepare (request.withMembers first) permissions =
      service.prepare (request.withMembers second) permissions := by
  have action := Verb.action_eq_of_ne_post notPost (request.withMembers first).explicitAction
    (request.withMembers second).explicitAction
  have read := service.readTargets_congr (service.locator.parse request.path) request action
    (same "resources" (by decide)) (same "id" (by decide)) (same "href" (by decide))
  have resolved := service.dispatcher.resolve_congr request.verb
    (service.locator.parse request.path) permissions action
  simp only [Request.withMembers] at read resolved ⊢
  simp only [prepare, read, resolved]

/-- The pipeline adds to what dispatch decides and never changes it: an operation carries the
decision and the targets as their own stages give them, only dispatch refuses an action, and the
decision depends on nothing but verb, path and, for POST, the action that the body names. -/
theorem prepare_keeps_decision (service : Service) (permissions : Permissions) :
    (∀ request operation, service.prepare request permissions = .ok operation →
      service.dispatcher.resolve request.verb (service.locator.parse request.path)
          request.explicitAction permissions = .ok operation.decision ∧
        service.readTargets (service.locator.parse request.path) request =
          .ok operation.targets) ∧
    (∀ request fault, service.prepare request permissions = .error fault →
      fault.kind = .forbidden ∨ fault.kind = .unsupportedAction →
      service.dispatcher.resolve request.verb (service.locator.parse request.path)
        request.explicitAction permissions = .error fault) ∧
    (∀ first second firstOperation secondOperation,
      service.prepare first permissions = .ok firstOperation →
      service.prepare second permissions = .ok secondOperation →
      first.verb = second.verb → first.path = second.path →
      (first.verb = .post → first.explicitAction = second.explicitAction) →
      firstOperation.decision = secondOperation.decision) ∧
    ∀ (request : Request) members, request.verb ≠ .post →
      (∀ value,
        service.prepare (request.withMembers (Json.insertMember "action" value members))
          permissions = service.prepare (request.withMembers members) permissions) ∧
      service.prepare (request.withMembers (members.filter fun member => member.1 != "action"))
        permissions = service.prepare (request.withMembers members) permissions := by
  refine ⟨?_, ?_, ?_, ?_⟩
  · intro request operation prepared
    obtain ⟨-, read, resolved, -, -⟩ := prepare_eq_ok_iff.mp prepared
    exact ⟨resolved, read⟩
  · intro request fault failed kind
    exact resolve_of_prepare_eq_error failed kind
  · intro first second firstOperation secondOperation preparedFirst preparedSecond verb path explicit
    obtain ⟨-, -, resolvedFirst, -, -⟩ := prepare_eq_ok_iff.mp preparedFirst
    obtain ⟨-, -, resolvedSecond, -, -⟩ := prepare_eq_ok_iff.mp preparedSecond
    have action : first.verb.action first.explicitAction =
        first.verb.action second.explicitAction := by
      by_cases post : first.verb = .post
      · rw [explicit post]
      · exact Verb.action_eq_of_ne_post post _ _
    rw [← verb, ← path, ← service.dispatcher.resolve_congr _ _ _ action, resolvedFirst]
      at resolvedSecond
    exact Except.ok.inj resolvedSecond
  · intro request members notPost
    refine ⟨fun value => ?_, ?_⟩
    · apply prepare_congr_of_ne_post service permissions notPost
      intro name differs
      rw [Json.lookup_insertMember, if_neg differs]
    · apply prepare_congr_of_ne_post service permissions notPost
      intro name differs
      exact Json.lookup_erase differs members

/-- The service of the small interface. -/
def machines : Service where
  catalogue := .machines
  locator := .under Config.machines.root .compressed
  dispatcher := .ofCatalogue .machines
  schema := .ofTypes Config.machines.types
  identity := .nothing
  grouping := Config.machines.grouping

theorem ofConfig_machines : ofConfig .machines = .ok machines := by
  rw [ofConfig, Catalogue.ofConfig_machines]
  rfl

/-- Two tags for a machine, one of which has no id. -/
def assignment : Request where
  verb := .post
  path := "/api/machines/7/tags"
  body := some (.object [("action", .string "assign"), ("resources", .array
    [.object [("id", .string "3")], .object []])])
  filters := ["name = 'blue'"]
  selection := []

theorem prepare_keeps_decision_assignment :
    ∃ operation,
      machines.prepare assignment (.ofGrants ["tag_admin"]) = .ok operation ∧
      machines.dispatcher.resolve .post (machines.locator.parse "/api/machines/7/tags")
        (some "assign") (.ofGrants ["tag_admin"]) = .ok operation.decision ∧
      machines.readTargets (machines.locator.parse "/api/machines/7/tags") assignment =
        .ok operation.targets ∧
      operation.decision.permission = some "tag_admin" ∧ operation.targets.ids = ["3"] := by
  have shown : (machines.prepare assignment (.ofGrants ["tag_admin"])).toOption.map
      (fun operation => (operation.decision.permission, operation.targets.ids)) =
        some (some "tag_admin", ["3"]) := by
    decide +kernel
  obtain ⟨operation, prepared, found⟩ := Option.map_eq_some_iff.mp shown
  rw [Stage.toOption_eq_some] at prepared
  have kept := (prepare_keeps_decision machines (.ofGrants ["tag_admin"])).1 _ _ prepared
  rw [Prod.mk.injEq] at found
  exact ⟨operation, prepared, kept.1, kept.2, found.1, found.2⟩

end Service

end ResourceRouter
