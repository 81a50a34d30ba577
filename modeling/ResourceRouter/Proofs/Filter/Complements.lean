import ResourceRouter.Proofs.Filter.Printing

set_option autoImplicit false

/-!
Operators that say the same, and operators that say the opposite. On an attribute that is no time, the
two ways to ask for equality compile to one condition, the two ways to deny it compile to another, and
the two conditions differ in nothing but the comparison, of which one is the denial of the other. A value
chooses one form of the rendering of an operator, and chooses the same one for all four operators.
-/

namespace ResourceRouter

/-- The second comparison holds where the first does not. -/
inductive Comparison.Opposes : Comparison → Comparison → Prop where
  | equality : Opposes .equal .notEqual
  | null : Opposes .isNull .isNotNull
  | pattern : Opposes .matchesPattern .matchesNotPattern

/-- The forms of a rendering that a value of an attribute which is no time can choose. -/
inductive ValueForm where
  | plain
  | pattern
  | null

def Rendering.under (rendering : Rendering) : ValueForm → Option Comparison
  | .plain => some rendering.plain
  | .pattern => rendering.pattern
  | .null => rendering.null

namespace Operator

/-- The operators that ask for equality. -/
def asking : List Operator := [.equal, .identical]

/-- The operators that deny equality. -/
def denying : List Operator := [.notEqual, .notIdentical]

/-- Every form has a comparison for equality, and its denial. -/
theorem exists_opposes_under (form : ValueForm) :
    ∃ asked denied, Comparison.Opposes asked denied ∧
      (∀ operator ∈ asking, operator.rendering.under form = some asked) ∧
      ∀ operator ∈ denying, operator.rendering.under form = some denied := by
  cases form with
  | plain => exact ⟨.equal, .notEqual, .equality, by decide, by decide⟩
  | pattern => exact ⟨.matchesPattern, .matchesNotPattern, .pattern, by decide, by decide⟩
  | null => exact ⟨.isNull, .isNotNull, .null, by decide, by decide⟩

theorem takesPattern_of_equality {operator : Operator} (listed : operator ∈ asking ++ denying) :
    operator.takesPattern = false := by
  revert listed
  cases operator <;> decide

end Operator

namespace Filter

/-- The value is a quoted text with wildcards that a set of texts is compared with. -/
def AsksInclusion (type : Option AttributeType) (raw : List Char) : Prop :=
  type = some .stringSet ∧ ∃ inner, IsQuoted inner raw ∧ ('%' ∈ inner ∨ '*' ∈ inner)

section Values

variable {type : Option AttributeType} (untimed : ¬ IsTimed type)
include untimed

/-- The form and the text that a value stands for do not depend on the operator. -/
theorem exists_interpret_under {raw : List Char} (plain : ¬ AsksInclusion type raw) :
    ∃ form value, ∀ operator ∈ Operator.asking ++ Operator.denying, ∀ comparison,
      operator.rendering.under form = some comparison →
        interpret operator raw type = .ok (comparison, value) := by
  by_cases quoted : ∃ inner, IsQuoted inner raw
  · obtain ⟨inner, quoted⟩ := quoted
    by_cases wild : '%' ∈ inner ∨ '*' ∈ inner
    · refine ⟨.pattern, some (String.ofList (wildcardPattern inner)), ?_⟩
      intro operator listed comparison applies
      have untexted : type ≠ some .stringSet := fun texts => plain ⟨texts, inner, quoted, wild⟩
      exact interpret_quoted_wildcard quoted wild (Operator.takesPattern_of_equality listed)
        untexted applies
    · refine ⟨.plain, some (String.ofList inner), ?_⟩
      intro operator listed comparison applies
      cases applies
      rw [interpret_quoted_literal quoted (not_or.mp wild)
        (Operator.takesPattern_of_equality listed)]
      exact compareText_of_untimed untimed _
  · have unquoted := not_exists.mp quoted
    cases word : isNull raw with
    | true =>
        refine ⟨.null, none, ?_⟩
        intro operator listed comparison applies
        have form : operator.rendering.null = some comparison := applies
        rw [interpret_null unquoted word, form, Option.getD_some]
    | false =>
        refine ⟨.plain, some (String.ofList raw), ?_⟩
        intro operator listed comparison applies
        cases applies
        rw [interpret_unquoted unquoted word, Operator.takesPattern_of_equality listed]
        exact compareText_of_untimed untimed _

/-- A regular expression is the same whether its match is asked for or denied. -/
theorem exists_interpret_pattern (raw : List Char) :
    ∃ value, ∀ operator, operator.takesPattern = true →
      interpret operator raw type = .ok (operator.rendering.plain, value) := by
  by_cases quoted : ∃ inner, IsQuoted inner raw
  · obtain ⟨inner, quoted⟩ := quoted
    exact ⟨_, fun operator => interpret_quoted_pattern quoted⟩
  · have unquoted := not_exists.mp quoted
    cases word : isNull raw with
    | true =>
        refine ⟨none, fun operator explicit => ?_⟩
        have formless : operator.rendering.null = none := by
          revert explicit
          cases operator <;> decide
        rw [interpret_null unquoted word, formless, Option.getD_none]
    | false =>
        refine ⟨some (String.ofList (patternLiteral raw)), fun operator explicit => ?_⟩
        have always : type.any AttributeType.isTemporal = false := by
          rwa [isTimed_iff, Bool.not_eq_true] at untimed
        rw [interpret_unquoted unquoted word, explicit, always]
        rfl

end Values

/-- The condition of the clause with another operator. -/
def outcome (schema : Schema) (grouping : Grouping) (typeName : String) (clause : Clause)
    (layout : Clause.Layout) (operator : Operator) : Except FilterFault Expression :=
  compile schema grouping typeName [String.ofList ({ clause with operator }.print layout)]

section Compiled

variable {clause : Clause} {layout : Clause.Layout} {schema : Schema} {typeName owner : String}

theorem outcome_of_interpret (printable : clause.IsPrintable layout)
    (unmistakable : clause.IsUnmistakable layout)
    (owns : Owns schema typeName ⟨typeName, clause.path.association, clause.path.name⟩ owner)
    (declared : schema.hasAttribute owner clause.path.name = true ∨
      schema.isVirtual owner clause.path.name = true) {operator : Operator}
    {comparison : Comparison} {value : Option String}
    (interpreted : interpret operator clause.value (schema.attributeType owner clause.path.name) =
      .ok (comparison, value)) (grouping : Grouping) :
    outcome schema grouping typeName clause layout operator =
      .ok (.leaf ⟨comparison, ⟨typeName, clause.path.association, clause.path.name⟩, value⟩) := by
  have again : { clause with operator }.IsPrintable layout :=
    ⟨printable.plain, printable.trimmed, printable.spaced⟩
  have resolved := resolveField_eq_ok.mpr ⟨rfl, owner, owns, declared, rfl⟩
  rw [outcome, Clause.compile_print again unmistakable, resolved]
  simp only [Except.bind, interpreted]
  rfl

/-- The two ways to ask for equality compile to one condition and the two ways to deny it to the
opposite one, which is about the same field and value; so do the match of a regular expression and its
denial. Only a set of texts that is compared with a quoted text with wildcards is left out: there one
of the two ways to ask for equality asks for inclusion. -/
theorem outcome_opposed (printable : clause.IsPrintable layout)
    (unmistakable : clause.IsUnmistakable layout)
    (owns : Owns schema typeName ⟨typeName, clause.path.association, clause.path.name⟩ owner)
    (declared : schema.hasAttribute owner clause.path.name = true ∨
      schema.isVirtual owner clause.path.name = true)
    (untimed : ¬ IsTimed (schema.attributeType owner clause.path.name))
    (plain : ¬ AsksInclusion (schema.attributeType owner clause.path.name) clause.value) :
    ∃ asked denied value form, Comparison.Opposes asked denied ∧ ∀ grouping,
      let field : Field := ⟨typeName, clause.path.association, clause.path.name⟩
      let outcome := outcome schema grouping typeName clause layout
      (∀ operator ∈ Operator.asking, outcome operator = .ok (.leaf ⟨asked, field, value⟩)) ∧
      (∀ operator ∈ Operator.denying, outcome operator = .ok (.leaf ⟨denied, field, value⟩)) ∧
      outcome .matchesPattern = .ok (.leaf ⟨.matchesPattern, field, form⟩) ∧
      outcome .matchesNotPattern = .ok (.leaf ⟨.matchesNotPattern, field, form⟩) := by
  obtain ⟨form, value, chosen⟩ := exists_interpret_under untimed plain
  obtain ⟨asked, denied, opposes, asking, denying⟩ := Operator.exists_opposes_under form
  obtain ⟨pattern, matched⟩ := exists_interpret_pattern untimed clause.value
  have compiled {operator : Operator} {comparison : Comparison} {value : Option String} :=
    @outcome_of_interpret _ _ _ _ _ printable unmistakable owns declared operator comparison value
  refine ⟨asked, denied, value, pattern, opposes, fun grouping => ⟨?_, ?_, ?_, ?_⟩⟩
  · intro operator listed
    exact compiled (chosen operator (List.mem_append_left _ listed) asked
      (asking operator listed)) grouping
  · intro operator listed
    exact compiled (chosen operator (List.mem_append_right _ listed) denied
      (denying operator listed)) grouping
  · exact compiled (matched .matchesPattern rfl) grouping
  · exact compiled (matched .matchesNotPattern rfl) grouping

end Compiled

/-- A text with wildcards and the sign of an operator in it. -/
def webs : Clause := ⟨⟨none, "name"⟩, .equal, "'web%='".toList, false⟩

/-- Whatever equality comes to for the text, its denial comes to the opposite, in any spelling. -/
theorem outcome_opposed_webs :
    webs.IsPrintable .usual ∧ webs.IsUnmistakable .usual ∧
      inventory.attributeType "Machine" "name" = some .string ∧
      ∃ asked denied value form, Comparison.Opposes asked denied ∧
        let field : Field := ⟨"Machine", none, "name"⟩
        let compiled (clause : String) := compile inventory .alternativesFirst "Machine" [clause]
        compiled "name == 'web%='" = .ok (.leaf ⟨asked, field, value⟩) ∧
        compiled "name != 'web%='" = .ok (.leaf ⟨denied, field, value⟩) ∧
        compiled "name =~ 'web%='" = .ok (.leaf ⟨.matchesPattern, field, form⟩) ∧
        compiled "name !~ 'web%='" = .ok (.leaf ⟨.matchesNotPattern, field, form⟩) := by
  have printable : webs.IsPrintable .usual :=
    ⟨by decide, by decide, Clause.Layout.isSpaced_usual⟩
  have unmistakable : webs.IsUnmistakable .usual := fun _ => by decide
  have type : inventory.attributeType "Machine" "name" = some .string := rfl
  have owns : Owns inventory "Machine" ⟨"Machine", none, "name"⟩ "Machine" := rfl
  have declared : inventory.hasAttribute "Machine" "name" = true ∨
    inventory.isVirtual "Machine" "name" = true := .inl rfl
  have untimed : ¬ IsTimed (inventory.attributeType "Machine" "name") := by
    rw [type]
    unfold IsTimed
    decide
  have plain : ¬ AsksInclusion (inventory.attributeType "Machine" "name") webs.value := by
    rintro ⟨texts, -⟩
    rw [type] at texts
    cases texts
  refine ⟨printable, unmistakable, type, ?_⟩
  obtain ⟨asked, denied, value, form, opposes, compiled⟩ :=
    outcome_opposed printable unmistakable owns declared untimed plain
  obtain ⟨asking, denying, matched, unmatched⟩ := compiled .alternativesFirst
  exact ⟨asked, denied, value, form, opposes, asking .identical (by decide),
    denying .notEqual (by decide), matched, unmatched⟩

end Filter

end ResourceRouter
