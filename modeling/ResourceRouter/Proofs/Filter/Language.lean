import ResourceRouter.Proofs.Filter.Syntax
import ResourceRouter.Proofs.Filter.Typing

set_option autoImplicit false

/-!
The language of filters. A list of clauses compiles exactly when there is one and each of them has an
operator, names an attribute that the schema has, and, where that attribute is a time, gives a value
that a time can be compared with.
-/

namespace ResourceRouter

namespace Filter

/-- The value stands between two quotes of one kind. -/
def IsQuoted (inner raw : List Char) : Prop :=
  ∃ quote, (quote = '\'' ∨ quote = '"') ∧ raw = quote :: (inner ++ [quote])

theorem unquote?_eq_some_iff {inner raw : List Char} :
    unquote? raw = some inner ↔ IsQuoted inner raw := by
  cases raw with
  | nil => simp [unquote?, IsQuoted]
  | cons first rest =>
      simp only [unquote?, IsQuoted, List.cons.injEq, Bool.and_eq_true, Bool.or_eq_true,
        decide_eq_true_eq]
      constructor
      · intro found
        split at found
        case isTrue closed =>
          obtain ⟨body, rfl⟩ := List.getLast?_eq_some_iff.mp closed.2
          rw [List.dropLast_concat, Option.some.injEq] at found
          exact ⟨first, closed.1, rfl, by rw [found]⟩
        case isFalse => cases found
      · rintro ⟨quote, kind, rfl, rfl⟩
        rw [if_pos ⟨kind, List.getLast?_concat⟩, List.dropLast_concat]

theorem unquote?_eq_none_iff {raw : List Char} :
    unquote? raw = none ↔ ∀ inner, ¬ IsQuoted inner raw := by
  simp only [← unquote?_eq_some_iff, Option.eq_none_iff_forall_ne_some, ne_eq]

section Equations

variable {operator : Operator} {type : Option AttributeType} {raw inner : List Char}

theorem interpret_null (unquoted : ∀ inner, ¬ IsQuoted inner raw) (word : isNull raw = true) :
    interpret operator raw type =
      .ok (operator.rendering.null.getD operator.rendering.plain, none) := by
  simp only [interpret, unquote?_eq_none_iff.mpr unquoted, word]
  rfl

theorem interpret_unquoted (unquoted : ∀ inner, ¬ IsQuoted inner raw) (present : isNull raw = false) :
    interpret operator raw type =
      if operator.takesPattern && !type.any AttributeType.isTemporal then
        .ok (operator.rendering.plain, some (String.ofList (patternLiteral raw)))
      else compareText operator type (String.ofList raw) := by
  simp only [interpret, unquote?_eq_none_iff.mpr unquoted, present]
  rfl

/-- A quoted regular expression is taken as it is. -/
theorem interpret_quoted_pattern (quoted : IsQuoted inner raw)
    (explicit : operator.takesPattern = true) :
    interpret operator raw type =
      .ok (operator.rendering.plain, some (String.ofList (patternLiteral inner))) := by
  simp only [interpret, unquote?_eq_some_iff.mpr quoted, explicit]
  rfl

/-- A quoted text without wildcards, which is no regular expression, is compared as an unquoted one. -/
theorem interpret_quoted_literal (quoted : IsQuoted inner raw) (literal : '%' ∉ inner ∧ '*' ∉ inner)
    (implicit : operator.takesPattern = false) :
    interpret operator raw type = compareText operator type (String.ofList inner) := by
  have tame : inner.any isWildcard = false := by
    rw [← Bool.not_eq_true, any_isWildcard_iff, not_or]
    exact literal
  simp only [interpret, unquote?_eq_some_iff.mpr quoted, implicit, wildcardComparison?, tame]
  rfl

/-- A quoted text with wildcards is a pattern where the operator has a form for patterns, except that
inclusion is asked of a set of texts. -/
theorem interpret_quoted_wildcard (quoted : IsQuoted inner raw) (wild : '%' ∈ inner ∨ '*' ∈ inner)
    (implicit : operator.takesPattern = false) (untexted : type ≠ some .stringSet)
    {comparison : Comparison} (applies : operator.rendering.pattern = some comparison) :
    interpret operator raw type =
      .ok (comparison, some (String.ofList (wildcardPattern inner))) := by
  simp only [interpret, unquote?_eq_some_iff.mpr quoted, implicit, wildcardComparison?,
    any_isWildcard_iff.mpr wild, untexted, applies]
  rfl

/-- Only a time limits what it is compared with, and changes the comparison. -/
theorem compareText_of_untimed (untimed : ¬ IsTimed type) (text : String) :
    compareText operator type text = .ok (operator.rendering.plain, some text) := by
  rw [compareText, filter_isTemporal_eq_none_iff.mpr untimed]

end Equations

/-- The values that an operator may compare a time with: null, a quoted regular expression, a quoted
text with wildcards, or a time, quoted or not. -/
inductive MeetsTime (operator : Operator) (raw : List Char) : Prop where
  | null (unquoted : ∀ inner, ¬ IsQuoted inner raw)
    (word : raw.map Char.toLower ∈ [['n', 'u', 'l', 'l'], ['n', 'i', 'l']])
  | pattern (inner : List Char) (quoted : IsQuoted inner raw)
    (explicit : operator ∈ [.matchesPattern, .matchesNotPattern])
  | wildcard (inner : List Char) (quoted : IsQuoted inner raw) (wild : '%' ∈ inner ∨ '*' ∈ inner)
    (comparable : operator ∈ [.equal, .identical, .notEqual, .notIdentical])
  | time (text : List Char)
    (written : IsQuoted text raw ∨ (∀ inner, ¬ IsQuoted inner raw) ∧ text = raw)
    (ordered : operator ∈ [.equal, .identical, .less, .greater])
    (valid : Calendar.isTime (String.ofList text) = true)

section Values

variable {operator : Operator} {type : Option AttributeType} {raw inner : List Char} {text : String}

theorem isSome_temporal_iff :
    operator.rendering.temporal.isSome = true ↔
      operator ∈ [.equal, .identical, .less, .greater] := by
  cases operator <;> decide

theorem takesPattern_iff :
    operator.takesPattern = true ↔ operator ∈ [.matchesPattern, .matchesNotPattern] := by
  cases operator <;> decide

theorem exists_compareTime_iff {temporal : AttributeType} :
    (∃ result, compareTime operator temporal text = .ok result) ↔
      operator ∈ [.equal, .identical, .less, .greater] ∧ Calendar.isTime text = true := by
  rw [← isSome_temporal_iff, compareTime]
  cases operator.rendering.temporal with
  | none => simp
  | some comparison => cases Calendar.isTime text <;> simp

/-- Only a time limits what it is compared with. -/
theorem exists_compareText_iff :
    (∃ result, compareText operator type text = .ok result) ↔
      (IsTimed type → operator ∈ [.equal, .identical, .less, .greater] ∧
        Calendar.isTime text = true) := by
  by_cases timed : IsTimed type
  · obtain ⟨temporal, found⟩ : ∃ temporal, type.filter AttributeType.isTemporal = some temporal := by
      rcases timed with rfl | rfl
      · exact ⟨.date, rfl⟩
      · exact ⟨.datetime, rfl⟩
    rw [compareText, found, forall_prop_of_true timed]
    exact exists_compareTime_iff
  · rw [compareText_of_untimed timed]
    simp [timed]

theorem isSome_pattern_iff (implicit : operator.takesPattern = false) :
    operator.rendering.pattern.isSome = true ↔
      operator ∈ [.equal, .identical, .notEqual, .notIdentical] := by
  revert implicit
  cases operator <;> decide

/-- Compared with a time, a text with wildcards is a pattern where the operator has a form for
patterns. -/
theorem isSome_wildcardComparison?_iff (timed : IsTimed type)
    (implicit : operator.takesPattern = false) :
    (wildcardComparison? operator type inner).isSome = true ↔
      ('%' ∈ inner ∨ '*' ∈ inner) ∧
        operator ∈ [.equal, .identical, .notEqual, .notIdentical] := by
  have single : (type = some .stringSet && operator = .equal) = false := by
    rcases timed with rfl | rfl <;> simp
  rw [← any_isWildcard_iff, ← isSome_pattern_iff implicit, wildcardComparison?, single]
  cases inner.any isWildcard <;> simp

/-- A quoted value is refused only where the attribute is a time and the operator meets it as one. -/
theorem exists_interpret_quoted (quoted : unquote? raw = some inner) :
    (∃ result, interpret operator raw type = .ok result) ↔
      (IsTimed type → operator ∈ [.matchesPattern, .matchesNotPattern] ∨
        ('%' ∈ inner ∨ '*' ∈ inner) ∧
            operator ∈ [.equal, .identical, .notEqual, .notIdentical] ∨
        operator ∈ [.equal, .identical, .less, .greater] ∧
          Calendar.isTime (String.ofList inner) = true) := by
  rw [← takesPattern_iff]
  simp only [interpret, quoted]
  cases explicit : operator.takesPattern with
  | true => simp
  | false =>
      by_cases timed : IsTimed type
      · rw [forall_prop_of_true timed, ← isSome_wildcardComparison?_iff timed explicit]
        cases wildcardComparison? operator type inner with
        | some result => simp
        | none =>
            simp only [Bool.false_eq_true, ↓reduceIte, Option.isSome_none, false_or]
            rw [exists_compareText_iff, forall_prop_of_true timed]
      · cases wildcardComparison? operator type inner with
        | some result => simp [timed]
        | none =>
            simp only [Bool.false_eq_true, ↓reduceIte]
            rw [exists_compareText_iff]
            simp [timed]

theorem exists_interpret_unquoted (unquoted : unquote? raw = none) :
    (∃ result, interpret operator raw type = .ok result) ↔
      (IsTimed type → isNull raw = true ∨
        operator ∈ [.equal, .identical, .less, .greater] ∧
          Calendar.isTime (String.ofList raw) = true) := by
  simp only [interpret, unquoted]
  by_cases word : isNull raw = true
  · simp [word]
  by_cases explicit : (operator.takesPattern && !type.any AttributeType.isTemporal) = true
  · have untimed : ¬ IsTimed type := by
      rw [isTimed_iff]
      simp_all
    simp [word, explicit, untimed]
  · rw [if_neg word, if_neg explicit, exists_compareText_iff]
    simp [word]

/-- A value is refused exactly where the attribute is a time and cannot be compared with it. -/
theorem exists_interpret_iff :
    (∃ result, interpret operator raw type = .ok result) ↔
      (IsTimed type → MeetsTime operator raw) := by
  cases found : unquote? raw with
  | none =>
      have unquoted := unquote?_eq_none_iff.mp found
      rw [exists_interpret_unquoted found]
      refine imp_congr_right fun _ => ⟨?_, ?_⟩
      · rintro (word | ⟨ordered, valid⟩)
        · exact .null unquoted (by simpa [isNull] using word)
        · exact .time raw (.inr ⟨unquoted, rfl⟩) ordered valid
      · intro meets
        cases meets with
        | null _ word => exact .inl (by simpa [isNull] using word)
        | pattern inner quoted _ => exact absurd quoted (unquoted inner)
        | wildcard inner quoted _ _ => exact absurd quoted (unquoted inner)
        | time text written ordered valid =>
            rcases written with quoted | ⟨-, rfl⟩
            · exact absurd quoted (unquoted text)
            · exact .inr ⟨ordered, valid⟩
  | some inner =>
      have quoted := unquote?_eq_some_iff.mp found
      have only {other : List Char} (again : IsQuoted other raw) : other = inner := by
        rw [← unquote?_eq_some_iff, found, Option.some.injEq] at again
        exact again.symm
      rw [exists_interpret_quoted found]
      refine imp_congr_right fun _ => ⟨?_, ?_⟩
      · rintro (explicit | ⟨wild, comparable⟩ | ⟨ordered, valid⟩)
        · exact .pattern inner quoted explicit
        · exact .wildcard inner quoted wild comparable
        · exact .time inner (.inl quoted) ordered valid
      · intro meets
        cases meets with
        | null unquoted _ => exact absurd quoted (unquoted inner)
        | pattern _ _ explicit => exact .inl explicit
        | wildcard other again wild comparable =>
            rw [only again] at wild
            exact .inr (.inl ⟨wild, comparable⟩)
        | time text written ordered valid =>
            rcases written with again | ⟨unquoted, -⟩
            · rw [only again] at valid
              exact .inr (.inr ⟨ordered, valid⟩)
            · exact absurd quoted (unquoted inner)

end Values

/-- A clause of the language on a type: it is split at its first operator, the part before that
writes a path to an attribute of the type or of one that an association leads to, and the part after
it is a value that the attribute can be compared with. -/
structure IsClause (schema : Schema) (typeName text : String) (split : Operator.Split)
    (path : AttributePath) (owner : String) : Prop where
  first : split.IsFirstIn (Clause.unmarked (Text.trim text.toList))
  written : path.IsWritten split.before
  owned : Owns schema typeName ⟨typeName, path.association, path.name⟩ owner
  declared : schema.hasAttribute owner path.name = true ∨ schema.isVirtual owner path.name = true
  meets : IsTimed (schema.attributeType owner path.name) →
    MeetsTime split.operator (Text.trim split.after)

section Compiled

variable {schema : Schema} {grouping : Grouping} {typeName : String}

theorem exists_compileClause_iff {text : String} :
    (∃ term, compileClause schema typeName text = .ok term) ↔
      ∃ split path owner, IsClause schema typeName text split path owner := by
  simp only [compileClause_eq_ok, Clause.parse_eq_ok_iff, resolveField_eq_ok]
  constructor
  · rintro ⟨-, -, field, type, comparison, value, ⟨split, path, first, written, rfl⟩,
      ⟨rfl, owner, owns, declared, rfl⟩, interpreted, rfl⟩
    exact ⟨split, path, owner, first, written, owns, declared,
      exists_interpret_iff.mp ⟨_, interpreted⟩⟩
  · rintro ⟨split, path, owner, first, written, owned, declared, meets⟩
    obtain ⟨⟨comparison, value⟩, interpreted⟩ := exists_interpret_iff.mpr meets
    exact ⟨_, _, _, _, comparison, value, ⟨split, path, first, written, rfl⟩,
      ⟨rfl, owner, owned, declared, rfl⟩, interpreted, rfl⟩

/-- The compiler accepts the language of filters and nothing else: some clauses, each of them a
clause of the language on the type. What it refuses is an invalid filter. -/
theorem compile_accepts (schema : Schema) (grouping : Grouping) (typeName : String)
    (clauses : List String) :
    ((∃ filter, compile schema grouping typeName clauses = .ok filter) ↔
      clauses ≠ [] ∧ ∀ text ∈ clauses, ∃ split path owner,
        IsClause schema typeName text split path owner) ∧
    ∀ fault, (compile schema grouping typeName clauses).mapError Fault.filter = .error fault →
      fault.kind = .invalidFilter := by
  constructor
  · simp only [exists_compile_iff, exists_compileClause_iff]
  · intro fault refused
    obtain ⟨cause, -, rfl⟩ := Stage.mapError_eq_error.mp refused
    rfl

/-- A moment may be left out or come with wildcards, and names may stand apart from their point; but a
moment is not at most another. -/
theorem compile_accepts_inventory :
    (∀ text ∈ ["created = NULL", " oR created !== '%2020*'", "or host . size <= a == b"],
      ∃ split path owner, IsClause inventory "Machine" text split path owner) ∧
    ¬ ∃ split path owner,
      IsClause inventory "Machine" "created <= 2020-01-02" split path owner := by
  constructor
  · have accepted := (compile_accepts inventory .alternativesLast "Machine"
      ["created = NULL", " oR created !== '%2020*'", "or host . size <= a == b"]).1
    exact (accepted.mp ⟨_, rfl⟩).2
  · intro clause
    have accepted := (compile_accepts inventory .alternativesLast "Machine"
      ["created <= 2020-01-02"]).1
    obtain ⟨filter, compiled⟩ := accepted.mpr
      ⟨List.cons_ne_nil _ _, List.forall_mem_singleton.mpr clause⟩
    have refused : compile inventory .alternativesLast "Machine" ["created <= 2020-01-02"] =
      .error (.temporalOperator .datetime .atMost) := rfl
    rw [refused] at compiled
    cases compiled

end Compiled

end Filter

end ResourceRouter
