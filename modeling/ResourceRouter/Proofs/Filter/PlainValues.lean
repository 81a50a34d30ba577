import ResourceRouter.Proofs.Filter.Printing

set_option autoImplicit false

/-!
Values that may stand without quotes. Quotes around such a value change nothing, neither the condition
that its clause stands for nor the fault that it is refused with. The one exception is a regular
expression that a time is compared with: without quotes it is refused, with quotes it is compared.
-/

namespace ResourceRouter

/-- A value that reads the same with and without quotes: it has no wildcards, it is not null, and it is
not in quotes itself. -/
structure IsPlainValue (value : List Char) : Prop where
  literal : '%' ∉ value ∧ '*' ∉ value
  present : value.map Char.toLower ∉ [['n', 'u', 'l', 'l'], ['n', 'i', 'l']]
  bare : ∀ inner, ¬ Filter.IsQuoted inner value

/-- The clause with its value in quotes. -/
def Clause.quoted (clause : Clause) (quote : Char) : Clause :=
  { clause with value := quote :: (clause.value ++ [quote]) }

/-- The path leads to an attribute of the schema that is a time. -/
def AttributePath.LeadsToTime (path : AttributePath) (schema : Schema) (typeName : String) : Prop :=
  ∃ owner, Filter.Owns schema typeName ⟨typeName, path.association, path.name⟩ owner ∧
    (schema.hasAttribute owner path.name = true ∨ schema.isVirtual owner path.name = true) ∧
    Filter.IsTimed (schema.attributeType owner path.name)

namespace Filter

section Values

variable {operator : Operator} {type : Option AttributeType} {value raw : List Char}

/-- An operator for regular expressions does not apply to a time. -/
theorem compareText_ne_ok (explicit : operator.takesPattern = true) (timed : IsTimed type)
    (text : String) (result : Comparison × Option String) :
    compareText operator type text ≠ .ok result := by
  intro compared
  have applies := (exists_compareText_iff.mp ⟨result, compared⟩ timed).1
  revert applies explicit
  cases operator <;> decide

theorem interpret_eq_quoted_iff (plain : IsPlainValue value) (quoted : IsQuoted value raw) :
    interpret operator value type = interpret operator raw type ↔
      ¬ (operator.takesPattern = true ∧ IsTimed type) := by
  have present : isNull value = false := by
    simpa [isNull] using plain.present
  rw [interpret_unquoted plain.bare present]
  cases explicit : operator.takesPattern with
  | false =>
      rw [interpret_quoted_literal quoted plain.literal explicit]
      simp
  | true =>
      rw [interpret_quoted_pattern quoted explicit]
      by_cases timed : IsTimed type
      · have unquoted := compareText_ne_ok explicit timed (String.ofList value)
        simp [timed, (isTimed_iff type).mp timed, unquoted]
      · have untimed : type.any AttributeType.isTemporal = false := by
          rwa [isTimed_iff, Bool.not_eq_true] at timed
        simp [timed, untimed]

end Values

section Compiled

variable {schema : Schema} {typeName : String} {clause : Clause} {layout : Clause.Layout}

/-- A clause may be replaced in a filter by one that compiles to the same. -/
theorem compile_congr {first second : String}
    (same : compileClause schema typeName first = compileClause schema typeName second)
    (grouping : Grouping) (before after : List String) :
    compile schema grouping typeName (before ++ first :: after) =
      compile schema grouping typeName (before ++ second :: after) := by
  have present (text : String) : (before ++ text :: after).isEmpty = false := by simp
  simp only [compile, present, Bool.false_eq_true, ↓reduceIte, List.mapM_append, List.mapM_cons,
    same]

theorem leadsToTime_iff {path : AttributePath} :
    path.LeadsToTime schema typeName ↔
      ∃ resolved, resolveField schema typeName path = .ok resolved ∧ IsTimed resolved.2 := by
  simp only [Prod.exists, resolveField_eq_ok]
  constructor
  · rintro ⟨owner, owns, declared, timed⟩
    exact ⟨_, _, ⟨rfl, owner, owns, declared, rfl⟩, timed⟩
  · rintro ⟨field, type, ⟨rfl, owner, owns, declared, rfl⟩, timed⟩
    exact ⟨owner, owns, declared, timed⟩

theorem isPrintable_quoted (printable : clause.IsPrintable layout) {quote : Char}
    (kind : quote = '\'' ∨ quote = '"') : (clause.quoted quote).IsPrintable layout :=
  ⟨printable.plain, trim_of_isQuoted ⟨quote, kind, rfl⟩, printable.spaced⟩

/-- Whatever is made of a field and a value that is read, quotes change it only where the path leads to
a time and the operator asks for a regular expression. -/
theorem bind_interpret_eq_quoted_iff {β : Type} (make : Field → Comparison × Option String → β)
    (injective : ∀ field, Function.Injective (make field)) (plain : IsPlainValue clause.value)
    {quote : Char} (kind : quote = '\'' ∨ quote = '"') :
    ((resolveField schema typeName clause.path).bind fun resolved =>
        (interpret clause.operator clause.value resolved.2).map (make resolved.1)) =
      ((resolveField schema typeName clause.path).bind fun resolved =>
        (interpret clause.operator (clause.quoted quote).value resolved.2).map
          (make resolved.1)) ↔
      ¬ (clause.operator ∈ [.matchesPattern, .matchesNotPattern] ∧
        clause.path.LeadsToTime schema typeName) := by
  have quoted : IsQuoted clause.value (clause.quoted quote).value := ⟨quote, kind, rfl⟩
  rw [leadsToTime_iff, ← takesPattern_iff]
  cases resolveField schema typeName clause.path with
  | error fault => simp [Except.bind]
  | ok resolved =>
      simp only [Except.bind]
      rw [Stage.map_inj (injective resolved.1), interpret_eq_quoted_iff plain quoted]
      simp

/-- A clause with a plain value, and the same clause with the value in quotes, compile to the same
condition or to the same fault, by themselves and among others. The one exception are regular
expressions that a time is compared with. -/
theorem compile_quoted_eq_iff (printable : clause.IsPrintable layout)
    (unmistakable : clause.IsUnmistakable layout) (plain : IsPlainValue clause.value) {quote : Char}
    (kind : quote = '\'' ∨ quote = '"') :
    (∀ grouping,
      compile schema grouping typeName [String.ofList (clause.print layout)] =
          compile schema grouping typeName [String.ofList ((clause.quoted quote).print layout)] ↔
        ¬ (clause.operator ∈ [.matchesPattern, .matchesNotPattern] ∧
          clause.path.LeadsToTime schema typeName)) ∧
    (¬ (clause.operator ∈ [.matchesPattern, .matchesNotPattern] ∧
        clause.path.LeadsToTime schema typeName) →
      ∀ grouping before after,
        compile schema grouping typeName
            (before ++ String.ofList (clause.print layout) :: after) =
          compile schema grouping typeName
            (before ++ String.ofList ((clause.quoted quote).print layout) :: after)) := by
  have again := isPrintable_quoted printable kind
  constructor
  · intro grouping
    rw [Clause.compile_print printable unmistakable, Clause.compile_print again unmistakable]
    exact bind_interpret_eq_quoted_iff (fun field read => Expression.leaf ⟨read.1, field, read.2⟩)
      (fun field ⟨_, _⟩ ⟨_, _⟩ same => by cases same; rfl) plain kind
  · intro ordinary grouping before after
    apply compile_congr
    rw [Clause.compileClause_print printable unmistakable,
      Clause.compileClause_print again unmistakable]
    exact (bind_interpret_eq_quoted_iff
      (fun field read => Term.mk clause.alternative ⟨read.1, field, read.2⟩)
      (fun field ⟨_, _⟩ ⟨_, _⟩ same => by cases same; rfl) plain kind).mpr ordinary

end Compiled

/-- An alternative with a moment. -/
def early : Clause := ⟨⟨none, "created"⟩, .less, "2020-01-02".toList, true⟩

/-- Quotes around the moment of an alternative change nothing, whatever stands before it. -/
theorem compile_quoted_early :
    early.IsPrintable .usual ∧ early.IsUnmistakable .usual ∧ IsPlainValue early.value ∧
      early.path.LeadsToTime inventory "Machine" ∧
      compile inventory .alternativesFirst "Machine"
          ["labels = a", "or created < 2020-01-02", "name =~ b"] =
        compile inventory .alternativesFirst "Machine"
          ["labels = a", "or created < \"2020-01-02\"", "name =~ b"] := by
  have printable : early.IsPrintable .usual := ⟨by decide, by decide, Clause.Layout.isSpaced_usual⟩
  have unmistakable : early.IsUnmistakable .usual := fun marked => by cases marked
  have value : IsPlainValue early.value :=
    ⟨by decide, by decide, unquote?_eq_none_iff.mp rfl⟩
  have timed : early.path.LeadsToTime inventory "Machine" := ⟨"Machine", rfl, .inl rfl, .inr rfl⟩
  have ordinary : ¬ (early.operator ∈ [.matchesPattern, .matchesNotPattern] ∧
      early.path.LeadsToTime inventory "Machine") := fun both => absurd both.1 (by decide)
  have bare : String.ofList (early.print .usual) = "or created < 2020-01-02" := by decide
  have quoted : String.ofList ((early.quoted '"').print .usual) =
    "or created < \"2020-01-02\"" := by decide
  refine ⟨printable, unmistakable, value, timed, ?_⟩
  rw [← bare, ← quoted]
  exact (compile_quoted_eq_iff printable unmistakable value (.inr rfl)).2 ordinary
    .alternativesFirst ["labels = a"] ["name =~ b"]

/-- A regular expression that a moment is compared with. -/
def recent : Clause := ⟨⟨none, "created"⟩, .matchesPattern, "2020".toList, false⟩

/-- Without quotes the expression is refused, for it is no operator of times; with quotes it is taken. -/
theorem compile_quoted_recent :
    recent.IsPrintable .usual ∧ recent.IsUnmistakable .usual ∧ IsPlainValue recent.value ∧
      String.ofList (recent.print .usual) = "created =~ 2020" ∧
      String.ofList ((recent.quoted '\'').print .usual) = "created =~ '2020'" ∧
      compile inventory .alternativesLast "Machine" ["created =~ 2020"] =
        .error (.temporalOperator .datetime .matchesPattern) ∧
      compile inventory .alternativesLast "Machine" ["created =~ '2020'"] =
        .ok (.leaf ⟨.matchesPattern, ⟨"Machine", none, "created"⟩, some "/2020/"⟩) ∧
      compile inventory .alternativesLast "Machine" ["created =~ 2020"] ≠
        compile inventory .alternativesLast "Machine" ["created =~ '2020'"] := by
  have value : IsPlainValue recent.value :=
    ⟨by decide, by decide, unquote?_eq_none_iff.mp rfl⟩
  have refused : compile inventory .alternativesLast "Machine" ["created =~ 2020"] =
    .error (.temporalOperator .datetime .matchesPattern) := rfl
  have taken : compile inventory .alternativesLast "Machine" ["created =~ '2020'"] =
    .ok (.leaf ⟨.matchesPattern, ⟨"Machine", none, "created"⟩, some "/2020/"⟩) := rfl
  refine ⟨⟨by decide, by decide, Clause.Layout.isSpaced_usual⟩, fun _ => by decide, value,
    by decide, by decide, refused, taken, fun same => ?_⟩
  rw [refused, taken] at same
  cases same

end Filter

end ResourceRouter
