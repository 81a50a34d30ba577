import ResourceRouter.Proofs.Filter.Clauses

set_option autoImplicit false

/-!
A filter is compiled clause by clause. Each clause stands for the one condition that it compiles to on
its own, the grouping only decides the order in which the conditions stand, and the first clause that
does not compile decides the fault.
-/

namespace ResourceRouter

/-- The clause is an alternative to what comes before it. -/
def Clause.isAlternative (text : String) : Bool := isMarked (Text.trim text.toList)

namespace Filter

variable {schema : Schema} {grouping : Grouping} {typeName : String}

theorem compose_singleton (term : Term) : compose grouping [term] = .leaf term.condition := by
  obtain ⟨alternative, condition⟩ := term
  cases grouping <;> cases alternative <;> rfl

/-- On its own, a clause compiles to the condition of its term. -/
theorem compile_singleton (text : String) :
    compile schema grouping typeName [text] =
      (compileClause schema typeName text).map fun term => .leaf term.condition := by
  cases compiled : compileClause schema typeName text with
  | error fault => simp [compile, compiled, bind, Except.bind, Except.map]
  | ok term =>
    simp [compile, compiled, bind, Except.bind, pure, Except.pure, Except.map, compose_singleton]

theorem exists_compile_singleton {text : String} :
    (∃ filter, compile schema grouping typeName [text] = .ok filter) ↔
      ∃ term, compileClause schema typeName text = .ok term := by
  simp [compile_singleton, Stage.map_eq_ok]

/-- The compiled conditions are those that the clauses stand for on their own. -/
theorem conditions_of_compile {clauses : List String} {filter : Expression}
    (compiled : compile schema grouping typeName clauses = .ok filter) :
    List.Forall₂
      (fun text condition => compile schema grouping typeName [text] = .ok (.leaf condition))
      (grouping.arrange Clause.isAlternative clauses) filter.conditions := by
  obtain ⟨-, terms, each, rfl⟩ := compile_eq_ok.mp compiled
  have alike (text : String) (term : Term)
      (done : compileClause schema typeName text = .ok term) :
      Clause.isAlternative text = term.alternative := (alternative_of_compileClause done).symm
  have arranged := grouping.forall₂_arrange alike each
  rw [conditions_compose, List.forall₂_map_right_iff]
  refine arranged.imp fun text term done => ?_
  rw [compile_singleton, done]
  rfl

/-- Compilation of a list of clauses is that of its members. It succeeds when each clause compiles on
its own, its conditions are then those of the clauses, each once and in the order of the grouping,
and it fails as the first clause does that fails on its own. -/
theorem compile_clausewise (schema : Schema) (grouping : Grouping) (typeName : String)
    {clauses : List String} (given : clauses ≠ []) :
    ((∃ filter, compile schema grouping typeName clauses = .ok filter) ↔
      ∀ text ∈ clauses, ∃ filter, compile schema grouping typeName [text] = .ok filter) ∧
    (∀ filter, compile schema grouping typeName clauses = .ok filter →
      (grouping.arrange Clause.isAlternative clauses).Perm clauses ∧
      List.Forall₂
        (fun text condition => compile schema grouping typeName [text] = .ok (.leaf condition))
        (grouping.arrange Clause.isAlternative clauses) filter.conditions) ∧
    ∀ fault, compile schema grouping typeName clauses = .error fault ↔
      ∃ before text after, clauses = before ++ text :: after ∧
        (∀ earlier ∈ before, ∃ filter, compile schema grouping typeName [earlier] = .ok filter) ∧
          compile schema grouping typeName [text] = .error fault := by
  refine ⟨?_, ?_, ?_⟩
  · simp only [exists_compile_singleton]
    rw [exists_compile_iff, and_iff_right given]
  · intro filter compiled
    exact ⟨grouping.perm_arrange _ clauses, conditions_of_compile compiled⟩
  · intro fault
    simp only [exists_compile_singleton]
    rw [compile_eq_error given]
    simp only [compile_singleton, Stage.map_eq_error]

/-- The alternative stands last whatever its place among the clauses, and of two clauses that do not
compile the first is reported. -/
theorem compile_clausewise_inventory :
    (∃ filter, compile inventory .alternativesLast "Machine"
        ["OR created < 2020-01-02", "labels = 'a*'"] = .ok filter ∧
      List.Forall₂
        (fun text condition =>
          compile inventory .alternativesLast "Machine" [text] = .ok (.leaf condition))
        ["labels = 'a*'", "OR created < 2020-01-02"] filter.conditions) ∧
    compile inventory .alternativesLast "Machine" ["name = x", "size > 1", "= 3"] =
      .error (.unknownAttribute "size" "Machine") := by
  constructor
  · have clausewise := compile_clausewise inventory .alternativesLast "Machine"
      (List.cons_ne_nil "OR created < 2020-01-02" ["labels = 'a*'"])
    have each : ∀ text ∈ ["OR created < 2020-01-02", "labels = 'a*'"],
        ∃ filter, compile inventory .alternativesLast "Machine" [text] = .ok filter := by
      simp only [List.forall_mem_cons]
      exact ⟨⟨_, rfl⟩, ⟨_, rfl⟩, List.forall_mem_nil _⟩
    obtain ⟨filter, compiled⟩ := clausewise.1.mpr each
    exact ⟨filter, compiled, (clausewise.2.1 filter compiled).2⟩
  · have clausewise := compile_clausewise inventory .alternativesLast "Machine"
      (List.cons_ne_nil "name = x" ["size > 1", "= 3"])
    apply (clausewise.2.2 _).mpr
    exact ⟨["name = x"], "size > 1", ["= 3"], rfl, List.forall_mem_singleton.mpr ⟨_, rfl⟩, rfl⟩

end Filter

end ResourceRouter
