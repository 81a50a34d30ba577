import ResourceRouter.Proofs.Filter.Clauses

set_option autoImplicit false

/-!
Typing of compiled filters. Every condition is about an attribute that the schema has, and its
comparison and value fit the declared type of that attribute: times meet only comparisons of times
and patterns, inclusion asks for a set of texts, and a missing value is written as such.
-/

namespace ResourceRouter.Filter

/-- What a comparison asks for: an order of values, a place in time, no value at all, a match of a
regular expression, or the members of a set. -/
inductive Kind where
  | order
  | time
  | null
  | pattern
  | inclusion
deriving DecidableEq, Repr

def kind : Comparison → Kind
  | .equal | .notEqual | .less | .greater | .atMost | .atLeast => .order
  | .is | .before | .after => .time
  | .isNull | .isNotNull => .null
  | .matchesPattern | .matchesNotPattern => .pattern
  | .includesAll => .inclusion

/-- The type of an attribute is one of the two for times. -/
def IsTimed (type : Option AttributeType) : Prop := type = some .date ∨ type = some .datetime

/-- What a comparison and its value promise about the type of the attribute and about the text that
the clause gives as its value. -/
structure Fits (type : Option AttributeType) (raw : List Char) (comparison : Comparison)
    (value : Option String) : Prop where
  /-- A place in time is asked only of times. -/
  time : kind comparison = .time →
    IsTimed type ∧ ∃ text, value = some text ∧ Calendar.isTime text = true
  /-- A time is never compared as if it were a text or a number. -/
  timed : IsTimed type → value ≠ none → kind comparison = .time ∨ kind comparison = .pattern
  /-- The comparisons with null have no value. -/
  null : kind comparison = .null → value = none
  /-- Only an unquoted null leaves the value out. -/
  missing : value = none →
    unquote? raw = none ∧ raw.map Char.toLower ∈ [['n', 'u', 'l', 'l'], ['n', 'i', 'l']]
  /-- Inclusion is asked only of a set of texts, with a wildcard in the value. -/
  inclusion : kind comparison = .inclusion → type = some .stringSet ∧
    ∃ text, value = some text ∧ ('%' ∈ text.toList ∨ '*' ∈ text.toList)
  /-- A regular expression stands between two slashes. -/
  pattern : kind comparison = .pattern → value = none ∨
    ∃ text, value = some text ∧ 2 ≤ text.utf8ByteSize ∧
      text.toList.head? = some '/' ∧ text.toList.getLast? = some '/'

/-- The type that holds the attribute of a field: the given one, or the one that its association
leads to. -/
def Owns (schema : Schema) (typeName : String) (field : Field) (owner : String) : Prop :=
  match field.association with
  | none => owner = typeName
  | some association => schema.associatedType typeName association = some owner

/-- A condition is about an attribute in the schema, and fits its type. -/
structure WellTyped (schema : Schema) (typeName : String) (raw : List Char)
    (condition : Condition) : Prop where
  onType : condition.field.typeName = typeName
  declared : ∃ owner, Owns schema typeName condition.field owner ∧
    (schema.hasAttribute owner condition.field.name = true ∨
      schema.isVirtual owner condition.field.name = true) ∧
    Fits (schema.attributeType owner condition.field.name) raw condition.comparison condition.value

/-- The ways to read a value: the only comparisons and values that a clause can stand for. -/
inductive Reading (operator : Operator) (type : Option AttributeType) (raw : List Char) :
    Comparison → Option String → Prop where
  | missing (unquoted : unquote? raw = none) (word : isNull raw = true) :
    Reading operator type raw (operator.rendering.null.getD operator.rendering.plain) none
  | inclusion (inner : List Char) (texts : type = some .stringSet)
    (wild : inner.any isWildcard = true) :
    Reading operator type raw .includesAll (some (String.ofList inner))
  | pattern (comparison : Comparison) (body : List Char)
    (matched : kind comparison = .pattern) :
    Reading operator type raw comparison (some (String.ofList ('/' :: body ++ ['/'])))
  | time (comparison : Comparison) (text : String) (timed : IsTimed type)
    (applies : operator.rendering.temporal = some comparison)
    (valid : Calendar.isTime text = true) :
    Reading operator type raw comparison (some text)
  | plain (text : String) (untimed : ¬ IsTimed type) (literal : operator.takesPattern = false) :
    Reading operator type raw operator.rendering.plain (some text)

section Renderings

variable {operator : Operator} {comparison : Comparison}

theorem kind_of_temporal (applies : operator.rendering.temporal = some comparison) :
    kind comparison = .time := by
  revert applies
  cases operator <;> cases comparison <;> decide

theorem kind_of_pattern (applies : operator.rendering.pattern = some comparison) :
    kind comparison = .pattern := by
  revert applies
  cases operator <;> cases comparison <;> decide

theorem kind_of_plain : kind operator.rendering.plain =
    if operator.takesPattern then .pattern else .order := by
  cases operator <;> decide

/-- No form for null asks for times or for inclusion. -/
theorem kind_of_null :
    kind (operator.rendering.null.getD operator.rendering.plain) ∉ [.time, .inclusion] := by
  cases operator <;> decide

end Renderings

theorem isTimed_iff (type : Option AttributeType) :
    IsTimed type ↔ type.any AttributeType.isTemporal = true := by
  unfold IsTimed
  rcases type with - | type
  · decide
  · cases type <;> decide

/-- Only a time is kept by the test for times. -/
theorem filter_isTemporal_eq_none_iff {type : Option AttributeType} :
    type.filter AttributeType.isTemporal = none ↔ ¬ IsTimed type := by
  rw [isTimed_iff]
  cases type with
  | none => simp
  | some type => simp [Option.filter_some]

theorem any_isWildcard_iff {inner : List Char} :
    inner.any isWildcard = true ↔ '%' ∈ inner ∨ '*' ∈ inner := by
  simp [isWildcard, List.any_eq_true, and_or_left, exists_or]

theorem patternLiteral_slashes (source : List Char) :
    ∃ body, patternLiteral source = '/' :: body ++ ['/'] := by
  unfold patternLiteral
  split
  case h_1 rest =>
    by_cases closed : rest.getLast? = some '/'
    · obtain ⟨body, rfl⟩ := List.getLast?_eq_some_iff.mp closed
      exact ⟨body, by rw [if_pos closed]; rfl⟩
    · exact ⟨'/' :: rest, by rw [if_neg closed]⟩
  case h_2 => exact ⟨source, rfl⟩

theorem wildcardPattern_slashes (inner : List Char) :
    ∃ body, wildcardPattern inner = '/' :: body ++ ['/'] := by
  unfold wildcardPattern
  dsimp only
  generalize Text.replace ['%'] anyText _ = body
  refine ⟨['\\', 'A'] ++ body ++ ['\\', 'z'], ?_⟩
  simp

theorem slashes_text (body : List Char) :
    let text := String.ofList ('/' :: body ++ ['/'])
    2 ≤ text.utf8ByteSize ∧ text.toList.head? = some '/' ∧ text.toList.getLast? = some '/' := by
  intro text
  have parts : text = "/" ++ String.ofList body ++ "/" := by
    apply String.toList_injective
    simp [text]
  have slash : "/".utf8ByteSize = 1 := rfl
  refine ⟨?_, ?_, ?_⟩
  · rw [parts, String.utf8ByteSize_append, String.utf8ByteSize_append, slash]
    omega
  · rw [String.toList_ofList]
    rfl
  · rw [String.toList_ofList, List.getLast?_append]
    rfl

section Readings

variable {operator : Operator} {type : Option AttributeType} {raw : List Char}
  {comparison : Comparison} {value : Option String}

theorem reading_of_compareTime {temporal : AttributeType} {text : String}
    (timed : IsTimed type)
    (compared : compareTime operator temporal text = .ok (comparison, value)) :
    Reading operator type raw comparison value := by
  unfold compareTime at compared
  split at compared
  · cases compared
  · split at compared
    case isTrue applies valid =>
      cases compared
      exact .time _ text timed applies valid
    case isFalse => cases compared

/-- A text is compared as a time exactly when the attribute is one. -/
theorem reading_of_compareText {text : String}
    (literal : IsTimed type ∨ operator.takesPattern = false)
    (compared : compareText operator type text = .ok (comparison, value)) :
    Reading operator type raw comparison value := by
  unfold compareText at compared
  split at compared
  case h_1 temporal found =>
    obtain ⟨rfl, isTemporal⟩ := Option.filter_eq_some_iff.mp found
    exact reading_of_compareTime ((isTimed_iff _).mpr isTemporal) compared
  case h_2 absent =>
    have untimed : ¬ IsTimed type := filter_isTemporal_eq_none_iff.mp absent
    cases compared
    exact .plain text untimed (literal.resolve_left untimed)

theorem reading_of_wildcardComparison {inner : List Char}
    (compared : wildcardComparison? operator type inner = some (comparison, value)) :
    Reading operator type raw comparison value := by
  unfold wildcardComparison? at compared
  split at compared
  case isTrue => cases compared
  case isFalse wild =>
    split at compared
    case isTrue set =>
      cases compared
      simp only [Bool.and_eq_true, decide_eq_true_eq] at set
      exact .inclusion inner set.1 (by simpa using wild)
    case isFalse =>
      obtain ⟨form, applies, same⟩ := Option.map_eq_some_iff.mp compared
      cases same
      obtain ⟨body, shape⟩ := wildcardPattern_slashes inner
      rw [shape]
      exact .pattern _ body (kind_of_pattern applies)

/-- A clause with an explicit regular expression asks for its match. -/
theorem reading_of_patternLiteral (source : List Char) (explicit : operator.takesPattern = true) :
    Reading operator type raw operator.rendering.plain
      (some (String.ofList (patternLiteral source))) := by
  obtain ⟨body, shape⟩ := patternLiteral_slashes source
  rw [shape]
  exact .pattern _ body (by rw [kind_of_plain, if_pos explicit])

/-- Interpretation follows one of the readings. -/
theorem reading_of_interpret (interpreted : interpret operator raw type = .ok (comparison, value)) :
    Reading operator type raw comparison value := by
  unfold interpret at interpreted
  split at interpreted
  case h_1 inner quoted =>
    by_cases explicit : operator.takesPattern = true
    · rw [if_pos explicit] at interpreted
      cases interpreted
      exact reading_of_patternLiteral inner explicit
    · rw [if_neg explicit] at interpreted
      split at interpreted
      case h_1 result wild =>
        cases interpreted
        exact reading_of_wildcardComparison wild
      case h_2 =>
        exact reading_of_compareText (.inr (by simpa using explicit)) interpreted
  case h_2 unquoted =>
    by_cases word : isNull raw = true
    · rw [if_pos word] at interpreted
      cases interpreted
      exact .missing unquoted word
    · rw [if_neg word] at interpreted
      split at interpreted
      case isTrue explicit =>
        cases interpreted
        rw [Bool.and_eq_true] at explicit
        exact reading_of_patternLiteral raw explicit.1
      case isFalse literal =>
        -- An operator for regular expressions gets here only on a time, where it does not apply.
        apply reading_of_compareText ?_ interpreted
        rw [isTimed_iff]
        by_cases explicit : operator.takesPattern = true
        · exact .inl (by simpa [explicit] using literal)
        · exact .inr (by simpa using explicit)

/-- Whichever way a value is read, its comparison fits the type. -/
theorem fits_of_reading (reading : Reading operator type raw comparison value) :
    Fits type raw comparison value := by
  cases reading with
  | missing unquoted word =>
      have apart : kind (operator.rendering.null.getD operator.rendering.plain) ∉
          [.time, .inclusion] := kind_of_null
      simp only [List.mem_cons, List.not_mem_nil, or_false, not_or] at apart
      constructor
      case time => exact fun asked => absurd asked apart.1
      case timed => simp
      case null => simp
      case missing => exact fun _ => ⟨unquoted, by simpa [isNull] using word⟩
      case inclusion => exact fun asked => absurd asked apart.2
      case pattern => simp
  | inclusion inner texts wild =>
      have members : kind .includesAll = .inclusion := rfl
      constructor
      case time => simp [members]
      case timed => simp [IsTimed, texts]
      case null => simp [members]
      case missing => simp
      case inclusion =>
        intro
        refine ⟨texts, String.ofList inner, rfl, ?_⟩
        rw [String.toList_ofList]
        exact any_isWildcard_iff.mp wild
      case pattern => simp [members]
  | pattern _ body matched =>
      constructor
      case time => simp [matched]
      case timed => exact fun _ _ => .inr matched
      case null => simp [matched]
      case missing => simp
      case inclusion => simp [matched]
      case pattern => exact fun _ => .inr ⟨_, rfl, slashes_text body⟩
  | time _ text timed applies valid =>
      have moment : kind comparison = .time := kind_of_temporal applies
      constructor
      case time => exact fun _ => ⟨timed, text, rfl, valid⟩
      case timed => exact fun _ _ => .inl moment
      case null => simp [moment]
      case missing => simp
      case inclusion => simp [moment]
      case pattern => simp [moment]
  | plain text untimed literal =>
      have ordered : kind operator.rendering.plain = .order := by
        rw [kind_of_plain, literal]
        rfl
      constructor
      case time => simp [ordered]
      case timed => exact fun timed => absurd timed untimed
      case null => simp [ordered]
      case missing => simp
      case inclusion => simp [ordered]
      case pattern => simp [ordered]

end Readings

section Compiled

variable {schema : Schema} {grouping : Grouping} {typeName : String}

theorem isRealAttribute_iff {owner name : String} :
    schema.isRealAttribute owner name = true ↔
      schema.hasAttribute owner name = true ∨ schema.isVirtual owner name = true := by
  rw [Schema.isRealAttribute, Bool.or_eq_true]

/-- A path names a field of the given type, with an attribute of the type that holds it. -/
theorem resolveField_eq_ok {path : AttributePath} {field : Field} {type : Option AttributeType} :
    resolveField schema typeName path = .ok (field, type) ↔
      field = ⟨typeName, path.association, path.name⟩ ∧ ∃ owner,
        Owns schema typeName field owner ∧
          (schema.hasAttribute owner field.name = true ∨ schema.isVirtual owner field.name = true) ∧
          type = schema.attributeType owner field.name := by
  simp only [← isRealAttribute_iff]
  unfold resolveField
  constructor
  · intro resolved
    dsimp only at resolved
    split at resolved
    case h_1 => cases resolved
    case h_2 owner found =>
      split at resolved
      case isTrue real =>
        cases resolved
        refine ⟨rfl, owner, ?_, real, rfl⟩
        unfold Owns
        cases association : path.association with
        | none =>
            rw [association] at found
            exact (Option.some.inj found).symm
        | some association =>
            rw [association] at found
            exact found
      case isFalse => cases resolved
  · rintro ⟨rfl, owner, owns, real, rfl⟩
    obtain ⟨association, name⟩ := path
    cases association with
    | none =>
        obtain rfl : owner = typeName := owns
        exact if_pos real
    | some association =>
        have found : schema.associatedType typeName association = some owner := owns
        simp only [found]
        exact if_pos real

/-- A clause compiles to a condition that is well typed for the value it is written with. -/
theorem wellTyped_of_compileClause {text : String} {term : Term}
    (compiled : compileClause schema typeName text = .ok term) :
    ∃ clause, Clause.parse text = .ok clause ∧ term.alternative = clause.alternative ∧
      WellTyped schema typeName clause.value term.condition := by
  obtain ⟨clause, field, type, comparison, value, parsed, resolved, interpreted, rfl⟩ :=
    compileClause_eq_ok.mp compiled
  obtain ⟨rfl, owner, owns, declared, rfl⟩ := resolveField_eq_ok.mp resolved
  exact ⟨clause, parsed, rfl, rfl, owner, owns, declared,
    fits_of_reading (reading_of_interpret interpreted)⟩

/-- Every condition of a compiled filter comes from one of its clauses, and is well typed against
the schema for the value that the clause is written with. -/
theorem compile_wellTyped {clauses : List String} {filter : Expression}
    (compiled : compile schema grouping typeName clauses = .ok filter) :
    ∀ condition ∈ filter.conditions, ∃ text ∈ clauses, ∃ clause,
      Clause.parse text = .ok clause ∧
      compileClause schema typeName text = .ok ⟨clause.alternative, condition⟩ ∧
      WellTyped schema typeName clause.value condition := by
  obtain ⟨-, terms, each, rfl⟩ := compile_eq_ok.mp compiled
  intro condition inside
  obtain ⟨term, listed, rfl⟩ := mem_conditions_compose.mp inside
  obtain ⟨text, given, done⟩ := Stage.exists_of_mem_right each listed
  obtain ⟨clause, parsed, marked, typed⟩ := wellTyped_of_compileClause done
  refine ⟨text, given, clause, parsed, ?_, typed⟩
  rw [← marked]
  exact done

/-- An alternative may ask for a time beside a clause that asks for the inclusion of labels. -/
theorem compile_wellTyped_inventory :
    ∃ filter, compile inventory .alternativesLast "Machine"
        ["labels = 'a*'", "OR created < 2020-01-02"] = .ok filter ∧
      filter.conditions = [⟨.includesAll, ⟨"Machine", none, "labels"⟩, some "a*"⟩,
        ⟨.before, ⟨"Machine", none, "created"⟩, some "2020-01-02"⟩] ∧
      ∀ condition ∈ filter.conditions,
        ∃ text ∈ ["labels = 'a*'", "OR created < 2020-01-02"], ∃ clause,
          Clause.parse text = .ok clause ∧
          compileClause inventory "Machine" text = .ok ⟨clause.alternative, condition⟩ ∧
          WellTyped inventory "Machine" clause.value condition := by
  have compiled : compile inventory .alternativesLast "Machine"
      ["labels = 'a*'", "OR created < 2020-01-02"] =
        .ok (.or [.leaf ⟨.includesAll, ⟨"Machine", none, "labels"⟩, some "a*"⟩,
          .leaf ⟨.before, ⟨"Machine", none, "created"⟩, some "2020-01-02"⟩]) := rfl
  exact ⟨_, compiled, rfl, compile_wellTyped compiled⟩

end Compiled

end ResourceRouter.Filter
