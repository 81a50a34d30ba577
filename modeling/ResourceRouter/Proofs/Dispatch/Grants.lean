import ResourceRouter.Proofs.Dispatch.Authorization

set_option autoImplicit false

/-!
Two callers, one of whom holds every permission of the other. What the other may do, this one may do
in the same way, on the strength of the same permission or of one that the action names before it. A
refusal that no permission has caused stays the same.
-/

namespace ResourceRouter

namespace Permissions

/-- Every permission of the first caller is one of the second. -/
def Within (fewer more : Permissions) : Prop :=
  ∀ identifier, fewer.allows identifier = true → more.allows identifier = true

theorem ofGrants_within {fewer more : List String} (granted : ∀ grant ∈ fewer, grant ∈ more) :
    (ofGrants fewer).Within (ofGrants more) := by
  intro identifier allowed
  simp only [ofGrants, Bool.or_eq_true, List.contains_iff_mem] at allowed ⊢
  exact allowed.imp (granted _) (granted _)

end Permissions

/-- Both permissions are in the list, the first at the place of the second or before it; or the list
asks for none. -/
inductive NoLater (identifiers : List String) : Option String → Option String → Prop where
  | unasked (empty : identifiers = []) : NoLater identifiers none none
  | asked {first second : String} (listed : first ∈ identifiers) (other : second ∈ identifiers)
      (earlier : identifiers.idxOf first ≤ identifiers.idxOf second) :
      NoLater identifiers (some first) (some second)

/-- A weaker test finds something, and not after what the stronger one finds. -/
theorem exists_find?_of_imp {α : Type} [DecidableEq α] {strong weak : α → Bool}
    (implies : ∀ item, strong item = true → weak item = true) {items : List α} {item : α}
    (found : items.find? strong = some item) :
    ∃ other, items.find? weak = some other ∧ items.idxOf other ≤ items.idxOf item := by
  induction items with
  | nil => cases found
  | cons first rest ih =>
      by_cases passes : weak first = true
      · refine ⟨first, List.find?_cons_of_pos passes, ?_⟩
        simp
      · have refused : ¬ strong first = true := fun holds => passes (implies first holds)
        rw [List.find?_cons_of_neg refused] at found
        obtain ⟨other, hit, earlier⟩ := ih found
        have itemDiffers : first ≠ item := by
          rintro rfl
          exact refused (List.find?_some found)
        have otherDiffers : first ≠ other := by
          rintro rfl
          exact passes (List.find?_some hit)
        refine ⟨other, by rw [List.find?_cons_of_neg passes, hit], ?_⟩
        rw [List.idxOf_cons_ne _ otherDiffers, List.idxOf_cons_ne _ itemDiffers]
        omega

namespace Dispatcher

/-- The request leads to an action: the one that its target offers first under the verb and name. -/
structure LeadsTo (catalogue : Catalogue) (verb : Verb) (address : Address) (action : String)
    (target : Collection) (spec : ActionSpec) : Prop where
  entries : ∃ collection primary, address.collection = some collection ∧
    Reaches catalogue collection address.subcollection primary target
  declared : (target.actions.at address.shape.target).action? verb action = some spec

section Stages

variable {fewer more : Permissions} {target : Collection} {spec : ActionSpec} {action : String}

/-- An action stays open with more permissions, and the permission that opens it comes no later. -/
theorem permission_of_within (within : fewer.Within more) {granted : Option String}
    (opened : permission target spec action fewer = .ok granted) :
    ∃ other, permission target spec action more = .ok other ∧
      NoLater spec.identifiers other granted := by
  obtain ⟨⟨enabled, allowed⟩, search⟩ := permission_eq_ok.mp opened
  cases granted with
  | none =>
      have unguarded : spec.identifiers = [] := by
        rcases allowed with empty | ⟨identifier, listed, held⟩
        · exact empty
        · exact absurd held (List.find?_eq_none.mp search identifier listed)
      have opens : Opens more spec := ⟨enabled, .inl unguarded⟩
      refine ⟨none, permission_eq_ok.mpr ⟨opens, ?_⟩, .unasked unguarded⟩
      rw [unguarded]
      rfl
  | some identifier =>
      obtain ⟨other, found, earlier⟩ := exists_find?_of_imp within search
      have listed := List.mem_of_find?_eq_some found
      have opens : Opens more spec := ⟨enabled, .inr ⟨other, listed, List.find?_some found⟩⟩
      exact ⟨some other, permission_eq_ok.mpr ⟨opens, found⟩,
        .asked listed (List.mem_of_find?_eq_some search) earlier⟩

end Stages

section Requests

variable {fewer more : Permissions} {verb : Verb} {address : Address} {explicit : Option String}

/-- The entrypoint asks for no permission. -/
theorem resolve_entrypoint (dispatcher : Dispatcher) (unnamed : address.collection = none)
    (permissions : Permissions) :
    dispatcher.resolve verb address explicit permissions =
      resolveEntrypoint verb (verb.action explicit) := by
  simp only [resolve, unnamed]

theorem permission_of_resolveEntrypoint {action : String} {decision : Decision}
    (resolved : resolveEntrypoint verb action = .ok decision) : decision.permission = none := by
  unfold resolveEntrypoint at resolved
  split at resolved <;> cases resolved <;> rfl

theorem resolve_ok_of_within (dispatcher : Dispatcher) (within : fewer.Within more)
    {decision : Decision}
    (resolved : dispatcher.resolve verb address explicit fewer = .ok decision) :
    ∃ permission,
      dispatcher.resolve verb address explicit more = .ok { decision with permission := permission } ∧
      ((address.collection = none ∨ verb = .options) ∧ permission = none ∧
          decision.permission = none ∨
        ∃ target spec,
          LeadsTo dispatcher.catalogue verb address (verb.action explicit) target spec ∧
            NoLater spec.identifiers permission decision.permission) := by
  cases named : address.collection with
  | none =>
      rw [resolve_entrypoint dispatcher named] at resolved ⊢
      have unasked := permission_of_resolveEntrypoint resolved
      refine ⟨none, ?_, .inl ⟨.inl rfl, rfl, unasked⟩⟩
      rw [resolved, ← unasked]
  | some collection =>
      by_cases options : verb = .options
      · subst options
        rw [resolve_options dispatcher named] at resolved ⊢
        obtain ⟨entries, settled, answered⟩ := Stage.bind_eq_ok.mp resolved
        cases answered
        refine ⟨none, ?_, .inl ⟨.inr rfl, rfl, rfl⟩⟩
        rw [settled]
        rfl
      · rw [resolve_eq dispatcher options named] at resolved ⊢
        simp only [Stage.bind_eq_ok, Stage.pure_eq_ok] at resolved ⊢
        obtain ⟨⟨primary, target⟩, settled, spec, found, granted, opened, handler, handled, rfl⟩ :=
          resolved
        obtain ⟨other, reopened, earlier⟩ := permission_of_within within opened
        have leads : LeadsTo dispatcher.catalogue verb address (verb.action explicit) target spec :=
          ⟨⟨collection, primary, named, involved_eq_ok.mp settled⟩,
            (declaredAction_eq_ok_iff.mp found).2⟩
        exact ⟨other, ⟨⟨primary, target⟩, settled, spec, found, other, reopened, handler, handled,
          rfl⟩, .inr ⟨target, spec, leads, earlier⟩⟩

theorem resolve_error_of_within (dispatcher : Dispatcher) (within : fewer.Within more)
    {fault : Fault} (failed : dispatcher.resolve verb address explicit fewer = .error fault)
    (cause : fault.kind = .unsupportedAction ∨
      ∃ action collection, fault = .disabledAction action collection) :
    dispatcher.resolve verb address explicit more = .error fault := by
  cases named : address.collection with
  | none =>
      rw [resolve_entrypoint dispatcher named] at failed ⊢
      exact failed
  | some collection =>
      by_cases options : verb = .options
      · subst options
        rw [resolve_options dispatcher named] at failed ⊢
        exact failed
      · rw [resolve_eq dispatcher options named] at failed ⊢
        simp only [Stage.bind_eq_error, Stage.pure_ne_error, and_false, exists_false,
          or_false] at failed ⊢
        rcases failed with unsettled | ⟨entries, settled, undeclared | ⟨spec, found, closed |
          ⟨granted, opened, unhandled⟩⟩⟩
        · exact .inl unsettled
        · exact .inr ⟨entries, settled, .inl undeclared⟩
        · refine .inr ⟨entries, settled, .inr ⟨spec, found, .inl ?_⟩⟩
          rcases permission_eq_error closed with ⟨disabled, rfl⟩ | rfl
          · simp [permission, disabled]
          · rcases cause with kind | ⟨_, _, other⟩
            · cases kind
            · cases other
        · obtain ⟨other, reopened, -⟩ := permission_of_within within opened
          exact .inr ⟨entries, settled, .inr ⟨spec, found, .inr ⟨other, reopened, unhandled⟩⟩⟩

/-- A caller with more permissions gets the same decisions, each by the same permission or one that
the action names before it, and is refused for the same cause wherever that is not a permission. -/
theorem resolve_of_within (dispatcher : Dispatcher) (within : fewer.Within more) (verb : Verb)
    (address : Address) (explicit : Option String) :
    (∀ decision, dispatcher.resolve verb address explicit fewer = .ok decision →
      ∃ permission,
        dispatcher.resolve verb address explicit more =
          .ok { decision with permission := permission } ∧
        ((address.collection = none ∨ verb = .options) ∧ permission = none ∧
            decision.permission = none ∨
          ∃ target spec,
            LeadsTo dispatcher.catalogue verb address (verb.action explicit) target spec ∧
              NoLater spec.identifiers permission decision.permission)) ∧
    ∀ fault, dispatcher.resolve verb address explicit fewer = .error fault →
      fault.kind = .unsupportedAction ∨
        (∃ action collection, fault = .disabledAction action collection) →
      dispatcher.resolve verb address explicit more = .error fault := by
  constructor
  · intro decision resolved
    exact resolve_ok_of_within dispatcher within resolved
  · intro fault failed cause
    exact resolve_error_of_within dispatcher within failed cause

/-- With the first permission that the action names as well, tags are assigned by that one. -/
theorem resolve_of_within_assign :
    (Permissions.ofGrants ["tag_admin"]).Within (.ofGrants ["tag_owner", "tag_admin"]) ∧
      (ofCatalogue .machines).resolve .post ⟨some "machines", some "7", some "tags", none, none⟩
          (some "assign") (.ofGrants ["tag_admin"]) =
        .ok ⟨"tags_assign_resource", "assign", some "machines", .subcollection, some "tag_admin",
          some "check_tag"⟩ ∧
      (ofCatalogue .machines).resolve .post ⟨some "machines", some "7", some "tags", none, none⟩
          (some "assign") (.ofGrants ["tag_owner", "tag_admin"]) =
        .ok ⟨"tags_assign_resource", "assign", some "machines", .subcollection, some "tag_owner",
          some "check_tag"⟩ := by
  have within : (Permissions.ofGrants ["tag_admin"]).Within (.ofGrants ["tag_owner", "tag_admin"]) :=
    Permissions.ofGrants_within (by decide)
  have resolved : (ofCatalogue .machines).resolve .post
      ⟨some "machines", some "7", some "tags", none, none⟩ (some "assign")
      (.ofGrants ["tag_admin"]) =
        .ok ⟨"tags_assign_resource", "assign", some "machines", .subcollection, some "tag_admin",
          some "check_tag"⟩ :=
    Stage.toOption_eq_some.mp (by decide +kernel)
  obtain ⟨permission, again, -⟩ := (resolve_of_within (ofCatalogue .machines) within .post
    ⟨some "machines", some "7", some "tags", none, none⟩ (some "assign")).1 _ resolved
  refine ⟨within, resolved, ?_⟩
  have found : ((ofCatalogue .machines).resolve .post
      ⟨some "machines", some "7", some "tags", none, none⟩ (some "assign")
      (.ofGrants ["tag_owner", "tag_admin"])).toOption.map (·.permission) =
        some (some "tag_owner") := by
    decide +kernel
  rw [again] at found ⊢
  obtain rfl : permission = some "tag_owner" := by simpa [Except.toOption] using found
  rfl

end Requests

end Dispatcher

end ResourceRouter
