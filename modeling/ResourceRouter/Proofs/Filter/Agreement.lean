import ResourceRouter.Proofs.Filter.Arrangement
import ResourceRouter.Proofs.Filter.NormalForm

set_option autoImplicit false

/-!
When the grouping does not matter. Both groupings give one and the same expression exactly when a
filter has no alternatives, or nothing but alternatives after its first clause: in any other filter
one of them gives a disjunction and the other a conjunction.
-/

namespace ResourceRouter.Filter

open Expression

section Groups

variable {term : Term} {terms rest : List Term}

/-- Every plain term but the first starts one more group. -/
theorem length_groups (term : Term) (rest : List Term) :
    (groups (term :: rest)).length = (rest.filter (!·.alternative)).length + 1 := by
  induction rest generalizing term with
  | nil => rfl
  | cons next rest ih =>
      obtain ⟨group, more, shape, joined⟩ := groups_cons_cons term next rest
      have length := ih next
      rw [shape, List.length_cons] at length
      rw [joined, List.filter_cons]
      cases next.alternative with
      | true =>
          simp only [↓reduceIte, Bool.not_true, Bool.false_eq_true, List.length_cons]
          omega
      | false =>
          simp only [Bool.false_eq_true, ↓reduceIte, Bool.not_false, List.length_cons]
          omega

theorem groups_of_plain (plain : ∀ term ∈ terms, term.alternative = false) :
    groups terms = terms.map fun term => [term.condition] := by
  induction terms with
  | nil => rfl
  | cons term rest ih =>
      have later := ih fun other inside => plain other (List.mem_cons_of_mem term inside)
      cases rest with
      | nil => rfl
      | cons next rest =>
          have apart : next.alternative = false := plain next (by simp)
          obtain ⟨group, more, shape, joined⟩ := groups_cons_cons term next rest
          rw [joined, apart, if_neg Bool.false_ne_true, List.map_cons, ← later, shape]

theorem composeFirst_of_plain (plain : ∀ term ∈ terms, term.alternative = false) :
    composeFirst terms = .all (leaves terms) := by
  rw [composeFirst, groups_of_plain plain, List.map_map]
  rfl

/-- Alternatives after the first term all join its group. -/
theorem composeFirst_of_alternatives (alternatives : ∀ next ∈ rest, next.alternative = true) :
    composeFirst (term :: rest) = .any (leaves (term :: rest)) := by
  have noPlain : rest.filter (!·.alternative) = [] := by
    simpa [List.filter_eq_nil_iff] using alternatives
  have one : (groups (term :: rest)).length = 1 := by
    rw [length_groups, noPlain]
    rfl
  obtain ⟨group, only⟩ := List.length_eq_one_iff.mp one
  have conditions := flatten_groups (term :: rest)
  rw [only, List.flatten_singleton] at conditions
  rw [composeFirst, only, conditions, List.map_singleton, List.map_map]
  rfl

/-- A second group makes a conjunction. -/
theorem connective?_composeFirst (plain : ∃ next ∈ rest, next.alternative = false) :
    (composeFirst (term :: rest)).connective? = some .and := by
  obtain ⟨next, listed, apart⟩ := plain
  have kept : next ∈ rest.filter (!·.alternative) := by simp [listed, apart]
  have more := List.length_pos_of_mem kept
  have length := length_groups term rest
  rw [composeFirst]
  generalize groups (term :: rest) = all at length
  rcases all with - | ⟨first, - | ⟨second, others⟩⟩
  · rw [List.length_nil] at length
    omega
  · rw [List.length_singleton] at length
    omega
  · rfl

/-- A first term with alternatives after it is one of them. -/
theorem composeLast_of_alternatives_after (alternatives : ∀ next ∈ rest, next.alternative = true) :
    composeLast (term :: rest) = .any (leaves (term :: rest)) := by
  cases marked : term.alternative with
  | true =>
      apply composeLast_of_alternatives (List.cons_ne_nil term rest)
      exact List.forall_mem_cons.mpr ⟨marked, alternatives⟩
  | false =>
      have noPlain : rest.filter (!·.alternative) = [] := by
        simpa [List.filter_eq_nil_iff] using alternatives
      have allAlternatives : rest.filter (·.alternative) = rest :=
        List.filter_eq_self.mpr alternatives
      have plain : (term :: rest).filter (!·.alternative) = [term] := by
        rw [List.filter_cons_of_pos (by simp [marked]), noPlain]
      have others : (term :: rest).filter (·.alternative) = rest := by
        rw [List.filter_cons_of_neg (by simp [marked]), allAlternatives]
      rw [composeLast, plain, others]
      cases rest with
      | nil => rfl
      | cons next rest => rfl

/-- The groupings agree on terms without alternatives, on terms that are alternatives from the second
one on, and on no others. -/
theorem composeLast_eq_composeFirst_iff (term : Term) (rest : List Term) :
    composeLast (term :: rest) = composeFirst (term :: rest) ↔
      (∀ other ∈ term :: rest, other.alternative = false) ∨
        ∀ next ∈ rest, next.alternative = true := by
  constructor
  · intro same
    by_contra differ
    simp only [not_or, not_forall, exists_prop, Bool.not_eq_false, Bool.not_eq_true] at differ
    obtain ⟨alternative, next, listed, apart⟩ := differ
    obtain ⟨first, others, -, -, disjunction⟩ :=
      composeLast_of_both ⟨next, List.mem_cons_of_mem term listed, apart⟩ alternative
    have conjunction : (composeFirst (term :: rest)).connective? = some .and :=
      connective?_composeFirst ⟨next, listed, apart⟩
    rw [← same, disjunction] at conjunction
    cases conjunction
  · rintro (plain | alternatives)
    · rw [composeLast_of_plain plain, composeFirst_of_plain plain]
    · rw [composeLast_of_alternatives_after alternatives, composeFirst_of_alternatives alternatives]

end Groups

variable {schema : Schema} {grouping : Grouping} {typeName : String}

/-- The terms of clauses carry the markers of their clauses. -/
theorem forall_isAlternative_iff {clauses : List String} {terms : List Term}
    (each : List.Forall₂ (fun text term => compileClause schema typeName text = .ok term) clauses
      terms) (mark : Bool) :
    (∀ text ∈ clauses, Clause.isAlternative text = mark) ↔
      ∀ term ∈ terms, term.alternative = mark := by
  induction each with
  | nil => simp
  | cons compiles others ih =>
      rw [List.forall_mem_cons, List.forall_mem_cons, ih, alternative_of_compileClause compiles]
      rfl

/-- Where a list of clauses compiles, it does so under either grouping, and the two expressions are
equal exactly when no clause is an alternative or every clause after the first is one. -/
theorem compile_agrees_iff {clauses : List String} {filter : Expression}
    (compiled : compile schema grouping typeName clauses = .ok filter) :
    ∃ last first,
      compile schema .alternativesLast typeName clauses = .ok last ∧
      compile schema .alternativesFirst typeName clauses = .ok first ∧
      (last = first ↔ (∀ text ∈ clauses, Clause.isAlternative text = false) ∨
        ∀ text ∈ clauses.tail, Clause.isAlternative text = true) := by
  obtain ⟨given, terms, each, -⟩ := compile_eq_ok.mp compiled
  refine ⟨composeLast terms, composeFirst terms, compile_eq_ok.mpr ⟨given, terms, each, rfl⟩,
    compile_eq_ok.mpr ⟨given, terms, each, rfl⟩, ?_⟩
  cases each with
  | nil => exact absurd rfl given
  | @cons text term clauses rest compiles others =>
      have whole := forall_isAlternative_iff (.cons compiles others) false
      have later := forall_isAlternative_iff others true
      rw [List.tail_cons, whole, later]
      exact composeLast_eq_composeFirst_iff term rest

/-- After a first clause with or without a marker, alternatives leave no choice; a plain clause after
an alternative does. -/
theorem compile_agrees_iff_inventory :
    (∃ last first,
      compile inventory .alternativesLast "Machine" ["or name = a", "OR host.size > 3"] = .ok last ∧
      compile inventory .alternativesFirst "Machine" ["or name = a", "OR host.size > 3"] = .ok first ∧
      last = first) ∧
    ∃ last first,
      compile inventory .alternativesLast "Machine" ["or name = a", "host.size > 3"] = .ok last ∧
      compile inventory .alternativesFirst "Machine" ["or name = a", "host.size > 3"] = .ok first ∧
      last ≠ first := by
  constructor
  · have compiled : compile inventory .alternativesLast "Machine"
        ["or name = a", "OR host.size > 3"] =
          .ok (.or [.leaf ⟨.equal, ⟨"Machine", none, "name"⟩, some "a"⟩,
            .leaf ⟨.greater, ⟨"Machine", some "host", "size"⟩, some "3"⟩]) := rfl
    obtain ⟨last, first, compiledLast, compiledFirst, agree⟩ := compile_agrees_iff compiled
    refine ⟨last, first, compiledLast, compiledFirst, agree.mpr (.inr ?_)⟩
    exact List.forall_mem_singleton.mpr rfl
  · have compiled : compile inventory .alternativesLast "Machine"
        ["or name = a", "host.size > 3"] =
          .ok (.or [.leaf ⟨.greater, ⟨"Machine", some "host", "size"⟩, some "3"⟩,
            .leaf ⟨.equal, ⟨"Machine", none, "name"⟩, some "a"⟩]) := rfl
    obtain ⟨last, first, compiledLast, compiledFirst, agree⟩ := compile_agrees_iff compiled
    refine ⟨last, first, compiledLast, compiledFirst, fun same => ?_⟩
    rcases agree.mp same with plain | alternatives
    · have unmarked : Clause.isAlternative "or name = a" = false := plain _ List.mem_cons_self
      cases unmarked
    · have marked : Clause.isAlternative "host.size > 3" = true :=
        alternatives _ List.mem_cons_self
      cases marked

end ResourceRouter.Filter
