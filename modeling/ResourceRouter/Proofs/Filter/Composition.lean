import ResourceRouter.Proofs.Filter.Clauses

set_option autoImplicit false

/-!
The meaning of a compiled filter in terms of its clauses. A filter is read clause by clause, each as
a condition with or without a marker, and the grouping says which conditions have to be true
together: the conjunction of the plain ones beside every alternative, or a conjunction of runs, each
of which starts at a plain condition and takes in the alternatives after it.
-/

namespace ResourceRouter

namespace Expression

variable (truth : Condition → Bool)

theorem allHold_eq (children : List Expression) :
    allHold truth children = children.all (holds truth) := by
  induction children with
  | nil => rfl
  | cons child rest ih => simp only [allHold, ih, List.all_cons]

theorem anyHolds_eq (children : List Expression) :
    anyHolds truth children = children.any (holds truth) := by
  induction children with
  | nil => rfl
  | cons child rest ih => simp only [anyHolds, ih, List.any_cons]

/-- The conjunction of a single expression means what the expression means. -/
theorem holds_all (children : List Expression) :
    (all children).holds truth = children.all (holds truth) := by
  unfold all
  split
  · simp
  · rw [holds, allHold_eq]

/-- The disjunction of a single expression means what the expression means. -/
theorem holds_any (children : List Expression) :
    (any children).holds truth = children.any (holds truth) := by
  unfold any
  split
  · simp
  · rw [holds, anyHolds_eq]

end Expression

namespace Filter

variable (truth : Condition → Bool)

/-- A run of conditions starts at the first term and at every plain one. -/
def StartsRun (terms : List Term) (i : Nat) : Prop :=
  ∃ term, terms[i]? = some term ∧ (i = 0 ∨ term.alternative = false)

/-- A condition is true from a position on, before the next run starts. -/
def RunHolds (terms : List Term) (i : Nat) : Prop :=
  ∃ j term, i ≤ j ∧ terms[j]? = some term ∧ truth term.condition = true ∧
    ∀ k, i < k → k ≤ j → ¬ StartsRun terms k

section Runs

variable {truth} {term next : Term} {rest : List Term}

theorem startsRun_cons_one : StartsRun (term :: next :: rest) 1 ↔ next.alternative = false := by
  simp [StartsRun]

theorem startsRun_cons_succ {i : Nat} (positive : 0 < i) :
    StartsRun (term :: rest) (i + 1) ↔ StartsRun rest i := by
  have later : i ≠ 0 := by omega
  simp [StartsRun, later]

/-- Past its own start, a run does not see what stands before it. -/
theorem runHolds_cons_succ {i : Nat} :
    RunHolds truth (term :: rest) (i + 1) ↔ RunHolds truth rest i := by
  constructor
  · rintro ⟨j, found, after, placed, holds, within⟩
    obtain ⟨j, rfl⟩ : ∃ n, j = n + 1 := ⟨j - 1, by omega⟩
    refine ⟨j, found, by omega, by simpa using placed, holds, fun k beyond upTo starts => ?_⟩
    exact within (k + 1) (by omega) (by omega) ((startsRun_cons_succ (by omega)).mpr starts)
  · rintro ⟨j, found, after, placed, holds, within⟩
    refine ⟨j + 1, found, by omega, by simpa using placed, holds, fun k beyond upTo starts => ?_⟩
    obtain ⟨k, rfl⟩ : ∃ n, k = n + 1 := ⟨k - 1, by omega⟩
    exact within k (by omega) (by omega) ((startsRun_cons_succ (by omega)).mp starts)

theorem runHolds_singleton : RunHolds truth [term] 0 ↔ truth term.condition = true := by
  constructor
  · rintro ⟨j, found, -, placed, holds, -⟩
    obtain ⟨inside, same⟩ := List.getElem?_eq_some_iff.mp placed
    obtain rfl : j = 0 := by simpa using inside
    rw [← same] at holds
    exact holds
  · intro holds
    exact ⟨0, term, Nat.le_refl 0, rfl, holds, fun k beyond upTo => by omega⟩

/-- The first run goes on into the next term exactly when that is an alternative. -/
theorem runHolds_cons_cons :
    RunHolds truth (term :: next :: rest) 0 ↔
      truth term.condition = true ∨
        next.alternative = true ∧ RunHolds truth (next :: rest) 0 := by
  constructor
  · rintro ⟨j, found, -, placed, holds, within⟩
    cases j with
    | zero =>
        obtain rfl : term = found := by simpa using placed
        exact .inl holds
    | succ j =>
        have joins : ¬ StartsRun (term :: next :: rest) 1 := within 1 (by omega) (by omega)
        rw [startsRun_cons_one, Bool.not_eq_false] at joins
        refine .inr ⟨joins, runHolds_cons_succ.mp ⟨j + 1, found, by omega, placed, holds, ?_⟩⟩
        intro k beyond upTo
        exact within k (by omega) upTo
  · rintro (holds | ⟨joins, continued⟩)
    · exact ⟨0, term, Nat.le_refl 0, rfl, holds, fun k beyond upTo => by omega⟩
    · have shifted : RunHolds truth (term :: next :: rest) 1 := runHolds_cons_succ.mpr continued
      obtain ⟨j, found, after, placed, holds, within⟩ := shifted
      refine ⟨j, found, by omega, placed, holds, fun k beyond upTo starts => ?_⟩
      by_cases first : k = 1
      · rw [first, startsRun_cons_one, joins] at starts
        cases starts
      · exact within k (by omega) upTo starts

/-- The runs after the first are those of the rest, whose own first run counts only if it starts
with a plain term. -/
theorem laterRunsHold_cons_cons :
    (∀ i, 0 < i → StartsRun (term :: next :: rest) i → RunHolds truth (term :: next :: rest) i) ↔
      (next.alternative = false → RunHolds truth (next :: rest) 0) ∧
        ∀ i, 0 < i → StartsRun (next :: rest) i → RunHolds truth (next :: rest) i := by
  constructor
  · intro runs
    refine ⟨fun plain => ?_, fun i positive starts => ?_⟩
    · exact runHolds_cons_succ.mp (runs 1 (by omega) (startsRun_cons_one.mpr plain))
    · exact runHolds_cons_succ.mp (runs (i + 1) (by omega) ((startsRun_cons_succ positive).mpr starts))
  · rintro ⟨lead, runs⟩ i positive starts
    obtain ⟨i, rfl⟩ : ∃ n, i = n + 1 := ⟨i - 1, by omega⟩
    apply runHolds_cons_succ.mpr
    cases i with
    | zero => exact lead (startsRun_cons_one.mp starts)
    | succ i => exact runs (i + 1) (by omega) ((startsRun_cons_succ (by omega)).mp starts)

/-- The groups are the runs: the first group is the run from the start, and the others are the runs
from each plain term after it. -/
theorem groups_hold (term : Term) (rest : List Term) :
    ∃ lead others, groups (term :: rest) = lead :: others ∧
      ((∃ condition ∈ lead, truth condition = true) ↔ RunHolds truth (term :: rest) 0) ∧
      ((∀ group ∈ others, ∃ condition ∈ group, truth condition = true) ↔
        ∀ i, 0 < i → StartsRun (term :: rest) i → RunHolds truth (term :: rest) i) := by
  induction rest generalizing term with
  | nil =>
      refine ⟨[term.condition], [], rfl, by simp [runHolds_singleton], ?_⟩
      simp only [List.not_mem_nil, false_implies, implies_true, true_iff]
      rintro i positive ⟨found, placed, -⟩
      have inside : i < 1 := (List.getElem?_eq_some_iff.mp placed).1
      omega
  | cons next rest ih =>
      obtain ⟨lead, others, shape, first, later⟩ := ih next
      obtain ⟨group, more, sameShape, joined⟩ := groups_cons_cons term next rest
      rw [shape, List.cons.injEq] at sameShape
      obtain ⟨rfl, rfl⟩ := sameShape
      rw [runHolds_cons_cons, laterRunsHold_cons_cons, ← first, ← later]
      -- The next term either takes this one into its group or starts the first of the others.
      cases marked : next.alternative with
      | true =>
          refine ⟨term.condition :: lead, others, by rw [joined, if_pos marked], ?_, ?_⟩
          · simp
          · simp
      | false =>
          refine ⟨[term.condition], lead :: others, by rw [joined]; simp [marked], ?_, ?_⟩
          · simp
          · simp

end Runs

theorem holds_any_leaves (conditions : List Condition) :
    (Expression.any (conditions.map .leaf)).holds truth = conditions.any truth := by
  simp [Expression.holds_any, Expression.holds, Function.comp_def]

/-- A conjunction of groups holds when every run does. -/
theorem holds_composeFirst (terms : List Term) :
    (composeFirst terms).holds truth = true ↔
      ∀ i, StartsRun terms i → RunHolds truth terms i := by
  have groupwise : (composeFirst terms).holds truth = true ↔
      ∀ group ∈ groups terms, ∃ condition ∈ group, truth condition = true := by
    simp [composeFirst, Expression.holds_all, holds_any_leaves]
  rw [groupwise]
  cases terms with
  | nil => simp [groups, StartsRun]
  | cons term rest =>
      obtain ⟨lead, others, shape, first, later⟩ := groups_hold term rest
      rw [shape, List.forall_mem_cons, first, later]
      constructor
      · rintro ⟨start, runs⟩ i starts
        cases i with
        | zero => exact start
        | succ i => exact runs (i + 1) (by omega) starts
      · intro runs
        exact ⟨runs 0 ⟨term, rfl, .inl rfl⟩, fun i _ => runs i⟩

/-- Every plain condition is true. -/
def PlainHold (terms : List Term) : Prop :=
  ∀ term ∈ terms, term.alternative = false → truth term.condition = true

/-- What the terms of a filter ask for. Without any plain term the conjunction of the plain ones is
absent, and does not count as true beside the alternatives. -/
def Means : Grouping → List Term → Prop
  | .alternativesLast, terms =>
    if ∃ term ∈ terms, term.alternative = true then
      (∃ term ∈ terms, term.alternative = false) ∧ PlainHold truth terms ∨
        ∃ term ∈ terms, term.alternative = true ∧ truth term.condition = true
    else PlainHold truth terms
  | .alternativesFirst, terms => ∀ i, StartsRun terms i → RunHolds truth terms i

theorem holds_composeLast (terms : List Term) :
    (composeLast terms).holds truth = true ↔ Means truth .alternativesLast terms := by
  have plainHolds : ((terms.filter (!·.alternative)).map fun term =>
      Expression.leaf term.condition).all (Expression.holds truth) = true ↔
        PlainHold truth terms := by
    simp only [PlainHold, List.all_map, List.all_filter, List.all_eq_true, Function.comp_apply,
      Expression.holds, Bool.or_eq_true, Bool.not_not, or_iff_not_imp_left, Bool.not_eq_true]
  have alternativeHolds : ((terms.filter (·.alternative)).map fun term =>
      Expression.leaf term.condition).any (Expression.holds truth) = true ↔
        ∃ term ∈ terms, term.alternative = true ∧ truth term.condition = true := by
    simp [Expression.holds]
  simp only [composeLast, Means, List.isEmpty_iff, List.map_eq_nil_iff, List.filter_eq_nil_iff]
  by_cases marked : ∃ term ∈ terms, term.alternative = true
  · have someAlternative : ¬ ∀ term ∈ terms, ¬ term.alternative = true := by
      simpa using marked
    rw [if_pos marked, if_neg someAlternative]
    by_cases plain : ∃ term ∈ terms, term.alternative = false
    · have somePlain : ¬ ∀ term ∈ terms, ¬ (!term.alternative) = true := by
        simpa using plain
      rw [if_neg somePlain, Expression.holds_any, List.any_cons, Expression.holds_all,
        Bool.or_eq_true, plainHolds, alternativeHolds]
      simp [plain]
    · have noPlain : ∀ term ∈ terms, ¬ (!term.alternative) = true := by
        simpa using plain
      rw [if_pos noPlain, Expression.holds_any, alternativeHolds]
      simp [plain]
  · have noAlternative : ∀ term ∈ terms, ¬ term.alternative = true := by
      simpa using marked
    rw [if_neg marked, if_pos noAlternative, Expression.holds_all, plainHolds]

theorem holds_compose (grouping : Grouping) (terms : List Term) :
    (compose grouping terms).holds truth = true ↔ Means truth grouping terms := by
  cases grouping with
  | alternativesLast => exact holds_composeLast truth terms
  | alternativesFirst => exact holds_composeFirst truth terms

/-- A compiled filter means what the grouping makes of its clauses, each taken on its own with the
marker that it is written with. -/
theorem holds_compile {schema : Schema} {grouping : Grouping} {typeName : String}
    {clauses : List String} {filter : Expression}
    (compiled : compile schema grouping typeName clauses = .ok filter) :
    ∃ terms,
      List.Forall₂ (fun text term => compileClause schema typeName text = .ok term ∧
        term.alternative = Clause.isMarked (Text.trim text.toList)) clauses terms ∧
      ∀ truth : Condition → Bool, filter.holds truth = true ↔ Means truth grouping terms := by
  obtain ⟨-, terms, each, rfl⟩ := compile_eq_ok.mp compiled
  refine ⟨terms, each.imp fun text term done => ?_, fun truth => holds_compose truth grouping terms⟩
  exact ⟨done, alternative_of_compileClause done⟩

/-- An alternative in front of every plain clause starts a run of its own. -/
theorem holds_compile_inventory :
    ∃ terms,
      List.Forall₂ (fun text term => compileClause inventory "Machine" text = .ok term ∧
        term.alternative = Clause.isMarked (Text.trim text.toList))
        ["or name = 'a*'", "OR host.size > 3", "created = 2020-01-02"] terms ∧
      ∀ truth : Condition → Bool,
        (Expression.and [
          .or [.leaf ⟨.matchesPattern, ⟨"Machine", none, "name"⟩, some "/\\Aa.*\\z/"⟩,
            .leaf ⟨.greater, ⟨"Machine", some "host", "size"⟩, some "3"⟩],
          .leaf ⟨.is, ⟨"Machine", none, "created"⟩, some "2020-01-02"⟩]).holds truth = true ↔
          Means truth .alternativesFirst terms := by
  apply holds_compile
  rfl

end Filter

end ResourceRouter
