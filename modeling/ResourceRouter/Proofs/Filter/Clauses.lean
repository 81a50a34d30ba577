import ResourceRouter.Filter.Compile
import ResourceRouter.Proofs.Stage

set_option autoImplicit false

/-!
A compiled filter clause by clause. Every clause gives a term of its own, with the marker it was
written with, and composition only arranges the conditions of the terms: none is lost, repeated or
made up.
-/

namespace ResourceRouter

namespace Clause

/-- A clause starts with the marker of an alternative, in any case of its letters. -/
def isMarked (text : List Char) : Bool := (text.take 3).map Char.toLower == ['o', 'r', ' ']

/-- Only a blank has a blank for its small form. -/
theorem eq_blank_of_toLower {c : Char} (blank : c.toLower = ' ') : c = ' ' := by
  unfold Char.toLower at blank
  split at blank
  case isTrue large =>
    have least := UInt32.le_iff_toNat_le.mp large.1
    have greatest := UInt32.le_iff_toNat_le.mp large.2
    have value : c.val + 32 = 32 := congrArg Char.val blank
    have number := congrArg UInt32.toNat value
    simp only [UInt32.toNat_add, UInt32.reduceToNat, Char.reduceVal] at least greatest number
    omega
  case isFalse => exact blank

theorem dropMarker_marked (text : List Char) : (dropMarker text).1 = isMarked text := by
  unfold dropMarker isMarked
  split
  case h_1 o r rest =>
    by_cases letters : o.toLower = 'o' ∧ r.toLower = 'r'
    · simp [letters]
    · have unlike : ¬ (o.toLower = 'o' && r.toLower = 'r') = true := by simpa using letters
      rw [if_neg unlike]
      simpa using letters
  case h_2 unlike =>
    -- The match asks for the blank itself, the marker only for its small form.
    symm
    rw [beq_eq_false_iff_ne]
    intro same
    rcases text with _ | ⟨o, _ | ⟨r, _ | ⟨space, rest⟩⟩⟩
    · simp at same
    · simp at same
    · simp at same
    · simp only [List.take_succ_cons, List.take_zero, List.map_cons, List.map_nil,
        List.cons.injEq] at same
      obtain ⟨-, -, blank, -⟩ := same
      exact unlike o r rest (by rw [eq_blank_of_toLower blank])

/-- A clause is an alternative exactly when its text starts with the marker. -/
theorem alternative_of_parse {text : String} {clause : Clause} (parsed : parse text = .ok clause) :
    clause.alternative = isMarked (Text.trim text.toList) := by
  rw [← dropMarker_marked]
  unfold parse at parsed
  split at parsed
  case h_1 alternative body dropped =>
    rw [dropped]
    split at parsed
    · cases parsed
    · split at parsed
      · cases parsed
      · obtain ⟨path, -, rfl⟩ := Stage.map_eq_ok.mp parsed
        rfl

end Clause

namespace Filter

variable {schema : Schema} {grouping : Grouping} {typeName : String}

theorem compileClause_eq_ok {text : String} {term : Term} :
    compileClause schema typeName text = .ok term ↔
      ∃ clause field type comparison value, Clause.parse text = .ok clause ∧
        resolveField schema typeName clause.path = .ok (field, type) ∧
        interpret clause.operator clause.value type = .ok (comparison, value) ∧
        ⟨clause.alternative, ⟨comparison, field, value⟩⟩ = term := by
  simp only [compileClause, Stage.bind_eq_ok, Stage.pure_eq_ok, Prod.exists]
  constructor
  · rintro ⟨clause, parsed, field, type, resolved, comparison, value, interpreted, rfl⟩
    exact ⟨clause, field, type, comparison, value, parsed, resolved, interpreted, rfl⟩
  · rintro ⟨clause, field, type, comparison, value, parsed, resolved, interpreted, rfl⟩
    exact ⟨clause, parsed, field, type, resolved, comparison, value, interpreted, rfl⟩

theorem alternative_of_compileClause {text : String} {term : Term}
    (compiled : compileClause schema typeName text = .ok term) :
    term.alternative = Clause.isMarked (Text.trim text.toList) := by
  obtain ⟨clause, field, type, comparison, value, parsed, -, -, rfl⟩ :=
    compileClause_eq_ok.mp compiled
  exact Clause.alternative_of_parse parsed

/-- A list of clauses compiles when there is one and each of them does. -/
theorem compile_eq_ok {clauses : List String} {filter : Expression} :
    compile schema grouping typeName clauses = .ok filter ↔
      clauses ≠ [] ∧ ∃ terms,
        List.Forall₂ (fun text term => compileClause schema typeName text = .ok term) clauses terms ∧
          compose grouping terms = filter := by
  unfold compile
  by_cases absent : clauses = []
  · simp [absent]
  · have present : ¬ clauses.isEmpty = true := by simpa using absent
    rw [if_neg present, Stage.map_eq_ok]
    simp only [Stage.mapM_eq_ok, ne_eq, absent, not_false_eq_true, true_and]

theorem exists_compile_iff {clauses : List String} :
    (∃ filter, compile schema grouping typeName clauses = .ok filter) ↔
      clauses ≠ [] ∧ ∀ text ∈ clauses, ∃ term, compileClause schema typeName text = .ok term := by
  simp only [compile_eq_ok, ← Stage.exists_mapM_iff, Stage.mapM_eq_ok]
  constructor
  · rintro ⟨filter, given, terms, each, -⟩
    exact ⟨given, terms, each⟩
  · rintro ⟨given, terms, each⟩
    exact ⟨_, given, terms, each, rfl⟩

/-- A list of clauses fails to compile with the fault of the first clause that does. -/
theorem compile_eq_error {clauses : List String} (given : clauses ≠ []) {fault : FilterFault} :
    compile schema grouping typeName clauses = .error fault ↔
      ∃ before text after, clauses = before ++ text :: after ∧
        (∀ earlier ∈ before, ∃ term, compileClause schema typeName earlier = .ok term) ∧
          compileClause schema typeName text = .error fault := by
  have present : ¬ clauses.isEmpty = true := by simpa using given
  rw [compile, if_neg present, Stage.map_eq_error, Stage.mapM_eq_error]

/-- A schema of machines on hosts, with a text, a moment, a set of texts and a number. -/
def inventory : Schema := .ofTypes (.ofList [
  ("Machine", ⟨.ofList [("name", .string), ("created", .datetime), ("labels", .stringSet)], .empty,
    .ofList [("host", "Host")]⟩),
  ("Host", ⟨.ofList [("size", .integer)], .empty, .empty⟩)])

theorem groups_ne_nil (term : Term) (rest : List Term) : groups (term :: rest) ≠ [] := by
  unfold groups
  split
  · split <;> simp
  · simp

/-- A term joins the group of an alternative after it, and is a group of its own otherwise. -/
theorem groups_cons_cons (term next : Term) (rest : List Term) :
    ∃ group more, groups (next :: rest) = group :: more ∧
      groups (term :: next :: rest) =
        if next.alternative then (term.condition :: group) :: more
        else [term.condition] :: group :: more := by
  obtain ⟨group, more, shape⟩ := List.exists_cons_of_ne_nil (groups_ne_nil next rest)
  refine ⟨group, more, shape, ?_⟩
  rw [groups.eq_def]
  simp only [shape]

theorem flatten_groups (terms : List Term) :
    (groups terms).flatten = terms.map (·.condition) := by
  induction terms with
  | nil => rfl
  | cons term rest ih =>
      cases rest with
      | nil => rfl
      | cons next rest =>
          obtain ⟨group, more, shape, joined⟩ := groups_cons_cons term next rest
          rw [shape, List.flatten_cons] at ih
          rw [joined, List.map_cons, ← ih]
          split <;> simp

end Filter

namespace Expression

theorem conditionsOfAll_eq (children : List Expression) :
    conditionsOfAll children = children.flatMap conditions := by
  induction children with
  | nil => rfl
  | cons child rest ih => simp only [conditionsOfAll, ih, List.flatMap_cons]

theorem conditions_all (children : List Expression) :
    (all children).conditions = children.flatMap conditions := by
  unfold all
  split
  · simp
  · rw [conditions, conditionsOfAll_eq]

theorem conditions_any (children : List Expression) :
    (any children).conditions = children.flatMap conditions := by
  unfold any
  split
  · simp
  · rw [conditions, conditionsOfAll_eq]

theorem conditions_leaves (conditions : List Condition) :
    (conditions.map leaf).flatMap Expression.conditions = conditions := by
  induction conditions with
  | nil => rfl
  | cons condition rest ih =>
      rw [List.map_cons, List.flatMap_cons, ih]
      rfl

end Expression

/-- The order in which a grouping takes the members of a list: as they come, or the alternatives
after all others. -/
def Grouping.arrange {α : Type} (isAlternative : α → Bool) : Grouping → List α → List α
  | .alternativesFirst, members => members
  | .alternativesLast, members =>
    members.filter (!isAlternative ·) ++ members.filter isAlternative

namespace Grouping

variable {α β : Type}

theorem perm_arrange (grouping : Grouping) (isAlternative : α → Bool) (members : List α) :
    (grouping.arrange isAlternative members).Perm members := by
  cases grouping with
  | alternativesFirst => exact .refl members
  | alternativesLast =>
      exact List.perm_append_comm.trans (List.filter_append_perm isAlternative members)

/-- Members that are related and alternatives alike stay so when both lists are arranged. -/
theorem forall₂_arrange (grouping : Grouping) {related : α → β → Prop} {first : α → Bool}
    {second : β → Bool} (alike : ∀ a b, related a b → first a = second b) {inputs : List α}
    {results : List β} (each : List.Forall₂ related inputs results) :
    List.Forall₂ related (grouping.arrange first inputs) (grouping.arrange second results) := by
  cases grouping with
  | alternativesFirst => exact each
  | alternativesLast =>
      have plain : List.Forall₂ related (inputs.filter (!first ·)) (results.filter (!second ·)) :=
        List.rel_filter (fun a b relation => by simp [alike a b relation]) each
      have alternatives : List.Forall₂ related (inputs.filter first) (results.filter second) :=
        List.rel_filter (fun a b relation => by simp [alike a b relation]) each
      exact List.rel_append plain alternatives

end Grouping

namespace Filter

/-- The conditions of groups stand in the order of their terms. -/
theorem conditions_composeFirst (terms : List Term) :
    (composeFirst terms).conditions = terms.map (·.condition) := by
  have groupwise : (composeFirst terms).conditions = (groups terms).flatMap id := by
    rw [composeFirst, Expression.conditions_all, List.flatMap_map]
    simp only [Expression.conditions_any, Expression.conditions_leaves]
    rfl
  rw [groupwise, List.flatMap_id, flatten_groups]

/-- The conditions of the plain terms stand before those of the alternatives. -/
theorem conditions_composeLast (terms : List Term) :
    (composeLast terms).conditions =
      ((terms.filter (!·.alternative)) ++ terms.filter (·.alternative)).map (·.condition) := by
  have leaves (kept : List Term) :
      (kept.map fun term => Expression.leaf term.condition).flatMap Expression.conditions =
        kept.map (·.condition) := by
    rw [← Expression.conditions_leaves (kept.map (·.condition)), List.map_map]
    rfl
  simp only [composeLast, List.isEmpty_iff, List.map_eq_nil_iff, List.map_append]
  by_cases noAlternative : terms.filter (·.alternative) = []
  · rw [if_pos noAlternative, Expression.conditions_all, leaves, noAlternative]
    simp
  · rw [if_neg noAlternative]
    by_cases noPlain : terms.filter (!·.alternative) = []
    · rw [if_pos noPlain, Expression.conditions_any, leaves, noPlain]
      rfl
    · rw [if_neg noPlain, Expression.conditions_any, List.flatMap_cons, Expression.conditions_all,
        leaves, leaves]

/-- The conditions of a composition are those of its terms, in the order of the grouping. -/
theorem conditions_compose (grouping : Grouping) (terms : List Term) :
    (compose grouping terms).conditions =
      (grouping.arrange (·.alternative) terms).map (·.condition) := by
  cases grouping with
  | alternativesFirst => exact conditions_composeFirst terms
  | alternativesLast => exact conditions_composeLast terms

/-- Every condition of a composition is that of a term. -/
theorem mem_conditions_compose {grouping : Grouping} {terms : List Term} {condition : Condition} :
    condition ∈ (compose grouping terms).conditions ↔ ∃ term ∈ terms, term.condition = condition := by
  have arranged := (grouping.perm_arrange (·.alternative) terms).map Term.condition
  rw [conditions_compose, arranged.mem_iff, List.mem_map]

end Filter

end ResourceRouter
