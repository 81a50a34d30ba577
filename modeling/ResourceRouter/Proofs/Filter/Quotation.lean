import ResourceRouter.Proofs.Filter.Arrangement
import ResourceRouter.Proofs.Filter.Language

set_option autoImplicit false

/-!
Values in quotes. What stands between the quotes of a clause is compared as it is written: it moves
neither the operator nor the attribute, whatever it contains. Only the text before the operator can,
where an exclamation mark at its end makes another operator with the equals sign behind it.
-/

namespace ResourceRouter

/-- A name that a clause can be written with as it is. -/
structure IsPlainName (name : String) : Prop where
  present : name.toList ≠ []
  trimmed : Text.trim name.toList = name.toList
  undotted : '.' ∉ name.toList
  free : Operator.IsFree name.toList

instance : DecidablePred IsPlainName := fun name =>
  decidable_of_iff
    (name.toList ≠ [] ∧ Text.trim name.toList = name.toList ∧ '.' ∉ name.toList ∧
      Operator.IsFree name.toList)
    ⟨fun ⟨present, trimmed, undotted, free⟩ => ⟨present, trimmed, undotted, free⟩,
      fun plain => ⟨plain.present, plain.trimmed, plain.undotted, plain.free⟩⟩

namespace IsPlainName

variable {name : String} (plain : IsPlainName name)
include plain

theorem head?_toList : ∀ c ∈ name.toList.head?, Text.isBlank c = false := by
  rw [← plain.trimmed]
  exact Text.head?_trim name.toList

variable {front back : List Char} (before : ∀ c ∈ front, Text.isBlank c = true)
  (behind : ∀ c ∈ back, Text.isBlank c = true)
include before behind

/-- The blanks around a name do not belong to it. -/
theorem trim_spaced : Text.trim (front ++ (name.toList ++ back)) = name.toList := by
  rw [Text.trim_blanks_append before, Text.trim_append_blanks behind, plain.trimmed]

theorem trim_spaced_ne_nil : Text.trim (front ++ (name.toList ++ back)) ≠ [] := by
  rw [plain.trim_spaced before behind]
  exact plain.present

theorem dot_notMem_spaced : '.' ∉ front ++ (name.toList ++ back) := by
  have solid {gap : List Char} (blank : ∀ c ∈ gap, Text.isBlank c = true) : '.' ∉ gap := by
    intro inside
    cases blank '.' inside
  simp only [List.mem_append, not_or]
  exact ⟨solid before, plain.undotted, solid behind⟩

end IsPlainName

namespace AttributePath

/-- The path as a clause writes it. -/
def text (path : AttributePath) : List Char :=
  match path.association with
  | none => path.name.toList
  | some association => association.toList ++ '.' :: path.name.toList

/-- The path with more or less space around its point. -/
def spaced (path : AttributePath) (before behind : List Char) : List Char :=
  match path.association with
  | none => path.name.toList
  | some association => association.toList ++ before ++ '.' :: (behind ++ path.name.toList)

structure IsPlain (path : AttributePath) : Prop where
  named : IsPlainName path.name
  associated : ∀ association ∈ path.association, IsPlainName association

instance : DecidablePred IsPlain := fun path =>
  decidable_of_iff (IsPlainName path.name ∧ ∀ association ∈ path.association, IsPlainName association)
    ⟨fun ⟨named, associated⟩ => ⟨named, associated⟩, fun plain => ⟨plain.named, plain.associated⟩⟩

variable {path : AttributePath} {before behind gap : List Char}

theorem text_eq_spaced (path : AttributePath) : path.text = path.spaced [] [] := by
  obtain ⟨association, name⟩ := path
  cases association with
  | none => rfl
  | some association => simp [text, spaced]

theorem length_text_le {text : List Char} (written : path.IsWritten text) :
    path.text.length ≤ text.length := by
  cases written with
  | own undotted named =>
      have shorter := (Text.trim_infix text).length_le
      show (String.ofList (Text.trim text)).toList.length ≤ text.length
      rw [String.toList_ofList]
      exact shorter
  | through association name dotted first last associated named =>
      have shorterFirst := (Text.trim_infix association).length_le
      have shorterLast := (Text.trim_infix name).length_le
      show ((String.ofList (Text.trim association)).toList ++
        '.' :: (String.ofList (Text.trim name)).toList).length ≤ text.length
      simp only [dotted, String.toList_ofList, List.length_append, List.length_cons]
      omega

theorem getLast?_text (plain : path.IsPlain) : path.text.getLast? = path.name.toList.getLast? := by
  unfold text
  split
  · rfl
  · obtain ⟨c, rest, shape⟩ := List.exists_cons_of_ne_nil plain.named.present
    rw [shape, List.append_cons, List.getLast?_append_cons]

theorem spaced_ne_nil (plain : path.IsPlain) : path.spaced before behind ≠ [] := by
  unfold spaced
  split
  · exact plain.named.present
  · simp

theorem text_ne_nil (plain : path.IsPlain) : path.text ≠ [] := by
  rw [text_eq_spaced]
  exact spaced_ne_nil plain

/-- A plain path starts with no blank. -/
theorem head?_spaced (plain : path.IsPlain) :
    ∀ c ∈ (path.spaced before behind).head?, Text.isBlank c = false := by
  unfold spaced
  split
  · exact plain.named.head?_toList
  case h_2 association given =>
    have first := plain.associated association given
    rw [List.append_assoc, List.head?_append_of_ne_nil _ first.present]
    exact first.head?_toList

theorem head?_text (plain : path.IsPlain) : ∀ c ∈ path.text.head?, Text.isBlank c = false := by
  rw [text_eq_spaced]
  exact head?_spaced plain

section Blanks

variable (plain : path.IsPlain) (front : ∀ c ∈ before, Text.isBlank c = true)
  (back : ∀ c ∈ behind, Text.isBlank c = true)
include plain front back

theorem isFree_spaced : Operator.IsFree (path.spaced before behind) := by
  unfold spaced
  split
  · exact plain.named.free
  case h_2 association given =>
    apply Operator.isFree_append_point
    · exact Operator.isFree_append_blanks (plain.associated association given).free front
    · exact Operator.isFree_blanks_append back plain.named.free

/-- A plain path is written by its names with a point between them, with any blanks around the point
and behind. -/
theorem isWritten_spaced (blank : ∀ c ∈ gap, Text.isBlank c = true) :
    path.IsWritten (path.spaced before behind ++ gap) := by
  have nothing : ∀ c ∈ ([] : List Char), Text.isBlank c = true := List.forall_mem_nil _
  obtain ⟨association, name⟩ := path
  cases association with
  | none =>
      have written := IsWritten.own (plain.named.dot_notMem_spaced nothing blank)
        (plain.named.trim_spaced_ne_nil nothing blank)
      rw [plain.named.trim_spaced nothing blank, String.ofList_toList] at written
      exact written
  | some association =>
      have first := plain.associated association rfl
      have written := IsWritten.through _ _ rfl (first.dot_notMem_spaced nothing front)
        (plain.named.dot_notMem_spaced back blank) (first.trim_spaced_ne_nil nothing front)
        (plain.named.trim_spaced_ne_nil back blank)
      rw [first.trim_spaced nothing front, plain.named.trim_spaced back blank, String.ofList_toList,
        String.ofList_toList] at written
      rw [spaced, List.append_assoc, List.cons_append, List.append_assoc behind]
      exact written

end Blanks

theorem isFree_text (plain : path.IsPlain) : Operator.IsFree path.text := by
  rw [text_eq_spaced]
  exact isFree_spaced plain (List.forall_mem_nil _) (List.forall_mem_nil _)

/-- A plain path is written by its text, with any blanks behind it. -/
theorem isWritten_text (plain : path.IsPlain) (blank : ∀ c ∈ gap, Text.isBlank c = true) :
    path.IsWritten (path.text ++ gap) := by
  rw [text_eq_spaced]
  exact isWritten_spaced plain (List.forall_mem_nil _) (List.forall_mem_nil _) blank

end AttributePath

namespace Filter

/-- The text that a quoted value is compared as: the value itself, or for a regular expression the
value between slashes, which are added unless they are there. -/
inductive ComparedAs (operator : Operator) (value : List Char) : List Char → Prop where
  | literal (plain : operator ∉ [.matchesPattern, .matchesNotPattern]) :
    ComparedAs operator value value
  | slashed (explicit : operator ∈ [.matchesPattern, .matchesNotPattern]) (body : List Char)
    (already : value = '/' :: (body ++ ['/'])) : ComparedAs operator value value
  | bare (explicit : operator ∈ [.matchesPattern, .matchesNotPattern])
    (unlike : ∀ body, value ≠ '/' :: (body ++ ['/'])) :
    ComparedAs operator value ('/' :: (value ++ ['/']))

section Values

variable {operator : Operator} {type : Option AttributeType} {inner raw compared : List Char}

theorem exists_comparedAs (operator : Operator) (value : List Char) :
    ∃ compared, ComparedAs operator value compared := by
  by_cases explicit : operator ∈ [.matchesPattern, .matchesNotPattern]
  · by_cases slashed : ∃ body, value = '/' :: (body ++ ['/'])
    · obtain ⟨body, already⟩ := slashed
      exact ⟨_, .slashed explicit body already⟩
    · exact ⟨_, .bare explicit fun body already => slashed ⟨body, already⟩⟩
  · exact ⟨_, .literal explicit⟩

theorem patternLiteral_of_slashed (body : List Char) :
    patternLiteral ('/' :: (body ++ ['/'])) = '/' :: (body ++ ['/']) := by
  simp [patternLiteral]

theorem patternLiteral_of_bare {source : List Char}
    (unlike : ∀ body, source ≠ '/' :: (body ++ ['/'])) :
    patternLiteral source = '/' :: (source ++ ['/']) := by
  unfold patternLiteral
  split
  case h_1 rest =>
    have unclosed : rest.getLast? ≠ some '/' := by
      intro closed
      obtain ⟨body, same⟩ := List.getLast?_eq_some_iff.mp closed
      exact unlike body (congrArg ('/' :: ·) same)
    rw [if_neg unclosed]
    rfl
  case h_2 => rfl

theorem isBlank_of_quote {quote : Char} (kind : quote = '\'' ∨ quote = '"') :
    Text.isBlank quote = false := by
  rcases kind with rfl | rfl <;> rfl

/-- Quotes keep the blanks between them. -/
theorem trim_of_isQuoted (quoted : IsQuoted inner raw) : Text.trim raw = raw := by
  obtain ⟨quote, kind, rfl⟩ := quoted
  apply Text.trim_of_ends
  · intro c first
    cases first
    exact isBlank_of_quote kind
  · intro c last
    rw [List.getLast?_cons, List.getLast?_concat] at last
    cases last
    exact isBlank_of_quote kind

/-- A quoted value without wildcards is compared as it is written. -/
theorem interpret_of_quoted (quoted : IsQuoted inner raw) (literal : '%' ∉ inner ∧ '*' ∉ inner)
    (untimed : ¬ IsTimed type) (written : ComparedAs operator inner compared) :
    interpret operator raw type =
      .ok (operator.rendering.plain, some (String.ofList compared)) := by
  cases written with
  | literal plain =>
      have implicit : operator.takesPattern = false := by
        rw [← Bool.not_eq_true, takesPattern_iff]
        exact plain
      rw [interpret_quoted_literal quoted literal implicit, compareText_of_untimed untimed]
  | slashed explicit body already =>
      rw [interpret_quoted_pattern quoted (takesPattern_iff.mpr explicit), already,
        patternLiteral_of_slashed]
  | bare explicit unlike =>
      rw [interpret_quoted_pattern quoted (takesPattern_iff.mpr explicit),
        patternLiteral_of_bare unlike]

end Values

/-- A clause that compares an attribute with a value in quotes. -/
structure QuotedClause where
  path : AttributePath
  /-- What stands between the path and the operator, and between that and the value. -/
  before : List Char
  operator : Operator
  after : List Char
  quote : Char
  value : List Char

namespace QuotedClause

def text (clause : QuotedClause) : List Char :=
  clause.path.text ++ clause.before ++
    (clause.operator.text.toList ++
      (clause.after ++ clause.quote :: (clause.value ++ [clause.quote])))

/-- The clause with or without the marker of an alternative. A clause that starts like one is never
without it. -/
inductive IsWritten (clause : QuotedClause) : Bool → List Char → Prop where
  | plain (unmarked : Clause.isMarked clause.text = false) : IsWritten clause false clause.text
  | alternative : IsWritten clause true ('o' :: 'r' :: ' ' :: clause.text)

/-- The path is plain, nothing but blanks stands around the operator, and the value stands in one kind
of quotes and has no wildcards. -/
structure IsQuoted (clause : QuotedClause) : Prop where
  plain : clause.path.IsPlain
  before : ∀ c ∈ clause.before, Text.isBlank c = true
  after : ∀ c ∈ clause.after, Text.isBlank c = true
  quote : clause.quote = '\'' ∨ clause.quote = '"'
  literal : '%' ∉ clause.value ∧ '*' ∉ clause.value

/-- The path ends in an exclamation mark, and the equals sign of the operator stands right behind. -/
structure IsMerged (clause : QuotedClause) : Prop where
  mark : clause.path.name.toList.getLast? = some '!'
  close : clause.before = []
  sign : clause.operator.text.toList.head? = some '='

def field (clause : QuotedClause) (typeName : String) : Field :=
  ⟨typeName, clause.path.association, clause.path.name⟩

section Reading

variable {clause : QuotedClause} {marked : Bool} {source : List Char}

theorem head?_text (quoted : clause.IsQuoted) : ∀ c ∈ clause.text.head?, Text.isBlank c = false := by
  rw [text, List.append_assoc, List.head?_append_of_ne_nil _ (AttributePath.text_ne_nil quoted.plain)]
  exact AttributePath.head?_text quoted.plain

theorem getLast?_text (clause : QuotedClause) : clause.text.getLast? = some clause.quote := by
  rw [text, ← List.cons_append]
  simp only [← List.append_assoc]
  exact List.getLast?_concat

/-- What is read of a clause is its text, with or without the marker in front of it. -/
theorem unmarked_trim (quoted : clause.IsQuoted) (written : clause.IsWritten marked source) :
    Clause.isMarked (Text.trim source) = marked ∧
      Clause.unmarked (Text.trim source) = clause.text := by
  have ends : ∀ c ∈ clause.text.getLast?, Text.isBlank c = false := by
    intro c last
    rw [getLast?_text] at last
    cases last
    exact isBlank_of_quote quoted.quote
  cases written with
  | plain unmarked =>
      rw [Text.trim_of_ends (head?_text quoted) ends, Clause.unmarked, unmarked]
      exact ⟨rfl, rfl⟩
  | alternative =>
      have whole : Text.trim ('o' :: 'r' :: ' ' :: clause.text) =
          'o' :: 'r' :: ' ' :: clause.text := by
        apply Text.trim_of_ends
        · intro c first
          cases first
          rfl
        · intro c last
          apply ends
          rw [List.getLast?_cons, List.getLast?_cons, List.getLast?_cons, getLast?_text] at last
          rw [getLast?_text]
          exact last
      rw [whole]
      exact ⟨rfl, Text.trimStart_of_head (head?_text quoted)⟩

/-- Only an exclamation mark right before an equals sign makes an operator with it. -/
theorem isMerged_of_meets (quoted : clause.IsQuoted) {rest : List Char}
    (meets : Operator.Meets (clause.path.text ++ clause.before)
      (clause.operator.text.toList ++ rest)) : clause.IsMerged := by
  obtain ⟨mark, d, next, sign⟩ := meets
  -- The text before the operator ends in a blank unless nothing stands behind the path.
  have close : clause.before = [] := by
    by_contra apart
    rw [List.getLast?_append_of_ne_nil _ apart] at mark
    have blank := quoted.before '!' (List.mem_of_getLast? mark)
    cases blank
  rw [close, List.append_nil, AttributePath.getLast?_text quoted.plain] at mark
  rw [List.head?_append_of_ne_nil _ (Operator.text_ne_nil clause.operator)] at next
  refine ⟨mark, close, ?_⟩
  simp only [List.mem_cons, List.not_mem_nil, or_false] at sign
  rcases sign with rfl | rfl
  · exact next
  · have never (operator : Operator) : operator.text.toList.head? ≠ some '~' := by
      cases operator <;> decide
    exact absurd next (never clause.operator)

/-- The clause is split at its operator. -/
theorem isFirstIn_text (quoted : clause.IsQuoted) (apart : ¬ clause.IsMerged) :
    Operator.Split.IsFirstIn
      ⟨clause.path.text ++ clause.before, clause.operator,
        clause.after ++ clause.quote :: (clause.value ++ [clause.quote])⟩ clause.text := by
  apply Operator.isFirstIn_of_isFree
  · exact Operator.isFree_append_blanks (AttributePath.isFree_text quoted.plain) quoted.before
  · exact fun meets => apart (isMerged_of_meets quoted meets)
  · intro d next
    cases shape : clause.after with
    | nil =>
        rw [shape] at next
        cases next
        rcases quoted.quote with single | double
        · rw [single]
          decide
        · rw [double]
          decide
    | cons c rest =>
        rw [shape] at next
        have same : c = d := Option.some.inj next
        have inside : d ∈ clause.after := by simp [shape, same]
        exact Text.notMem_of_blank (quoted.after d inside) rfl

/-- Where the exclamation mark makes an operator with the equals sign, the clause is split before it. -/
theorem length_before_of_merged (quoted : clause.IsQuoted) (merged : clause.IsMerged)
    {split : Operator.Split} (first : split.IsFirstIn clause.text) :
    split.before.length < clause.path.text.length := by
  have mark : clause.path.text.getLast? = some '!' := by
    rw [AttributePath.getLast?_text quoted.plain]
    exact merged.mark
  -- The mark and the sign behind it are an operator, and the split stands no later than that.
  obtain ⟨front, path⟩ := List.getLast?_eq_some_iff.mp mark
  obtain ⟨sign, operator⟩ := List.head?_eq_some_iff.mp merged.sign
  have earlier := first.leftmost .notEqual front
    (sign ++ (clause.after ++ clause.quote :: (clause.value ++ [clause.quote]))) (by
      rw [text, path, merged.close, operator, List.append_nil]
      simp [Operator.text])
  rw [path, List.length_append, List.length_singleton]
  omega

end Reading

/-- The schema has the attribute of a clause, and it is no time. -/
structure IsKnown (clause : QuotedClause) (schema : Schema) (typeName owner : String) : Prop where
  owned : Owns schema typeName (clause.field typeName) owner
  declared : schema.hasAttribute owner clause.path.name = true ∨
    schema.isVirtual owner clause.path.name = true
  untimed : ¬ IsTimed (schema.attributeType owner clause.path.name)

section Compiled

variable {clause : QuotedClause} {schema : Schema} {typeName owner : String} {marked : Bool}
  {source compared : List Char}

/-- The condition that a quoted clause is written for. -/
def condition (clause : QuotedClause) (typeName : String) (compared : List Char) : Condition :=
  ⟨clause.operator.rendering.plain, clause.field typeName, some (String.ofList compared)⟩

theorem compileClause_of_quoted (quoted : clause.IsQuoted)
    (known : clause.IsKnown schema typeName owner)
    (written : clause.IsWritten marked source)
    (value : ComparedAs clause.operator clause.value compared) (apart : ¬ clause.IsMerged) :
    compileClause schema typeName (String.ofList source) =
      .ok ⟨marked, clause.condition typeName compared⟩ := by
  obtain ⟨mark, body⟩ := unmarked_trim quoted written
  have split := isFirstIn_text quoted apart
  have path := AttributePath.isWritten_text quoted.plain quoted.before
  have literal : Text.trim (clause.after ++ clause.quote :: (clause.value ++ [clause.quote])) =
      clause.quote :: (clause.value ++ [clause.quote]) := by
    rw [Text.trim_blanks_append quoted.after]
    exact trim_of_isQuoted ⟨clause.quote, quoted.quote, rfl⟩
  have parsed : Clause.parse (String.ofList source) =
      .ok ⟨clause.path, clause.operator, clause.quote :: (clause.value ++ [clause.quote]), marked⟩ := by
    rw [Clause.parse_eq_ok_iff, String.toList_ofList, mark, body]
    refine ⟨_, clause.path, split, path, ?_⟩
    rw [literal]
  have resolved := resolveField_eq_ok.mpr ⟨rfl, owner, known.owned, known.declared, rfl⟩
  have interpreted := interpret_of_quoted ⟨clause.quote, quoted.quote, rfl⟩ quoted.literal
    known.untimed value
  exact compileClause_eq_ok.mpr ⟨_, _, _, _, _, parsed, resolved, interpreted, rfl⟩

/-- A clause that is compiled to its own attribute is split behind its path. -/
theorem not_isMerged_of_compileClause (quoted : clause.IsQuoted)
    (written : clause.IsWritten marked source) {term : Term}
    (compiled : compileClause schema typeName (String.ofList source) = .ok term)
    (own : term.condition.field = clause.field typeName) : ¬ clause.IsMerged := by
  intro merged
  obtain ⟨read, field, type, comparison, value, parsed, resolved, -, rfl⟩ :=
    compileClause_eq_ok.mp compiled
  obtain ⟨split, path, first, spelled, rfl⟩ := Clause.parse_eq_ok_iff.mp parsed
  obtain ⟨rfl, -⟩ := resolveField_eq_ok.mp resolved
  rw [String.toList_ofList, (unmarked_trim quoted written).2] at first
  have same : path = clause.path := by
    obtain ⟨-, associations, names⟩ := Field.mk.inj own
    rw [AttributePath.mk.injEq]
    exact ⟨associations, names⟩
  -- The text before the split is too short for the path that was read from it.
  have shorter := length_before_of_merged quoted merged first
  have longer := AttributePath.length_text_le spelled
  rw [same] at longer
  omega

end Compiled

/-- The value in the quotes of a clause is opaque. With or without the marker of an alternative, the
clause gives one condition: its attribute, the plain comparison of its operator, and its value. The one
exception are clauses in which the path ends in an exclamation mark and the operator begins with an
equals sign right behind it. -/
theorem compile_quoted {clause : QuotedClause} {schema : Schema} {typeName owner : String}
    (quoted : clause.IsQuoted) (known : clause.IsKnown schema typeName owner) :
    ∃ compared, ComparedAs clause.operator clause.value compared ∧
      ∀ grouping marked source, clause.IsWritten marked source →
        (compileClause schema typeName (String.ofList source) =
            .ok ⟨marked, clause.condition typeName compared⟩ ↔ ¬ clause.IsMerged) ∧
        (compile schema grouping typeName [String.ofList source] =
            .ok (.leaf (clause.condition typeName compared)) ↔ ¬ clause.IsMerged) := by
  obtain ⟨compared, value⟩ := exists_comparedAs clause.operator clause.value
  refine ⟨compared, value, fun grouping marked source written => ⟨⟨?_, ?_⟩, ?_, ?_⟩⟩
  · intro compiled
    exact not_isMerged_of_compileClause quoted written compiled rfl
  · exact compileClause_of_quoted quoted known written value
  · intro compiled
    rw [compile_singleton] at compiled
    obtain ⟨term, done, same⟩ := Stage.map_eq_ok.mp compiled
    have own : term.condition = clause.condition typeName compared := Expression.leaf.inj same
    apply not_isMerged_of_compileClause quoted written done
    rw [own]
    rfl
  · intro apart
    rw [compile_singleton, compileClause_of_quoted quoted known written value apart]
    rfl

/-- A regular expression with quotes, operators and the marker of an alternative in it. -/
def sizePattern : QuotedClause where
  path := ⟨some "host", "size"⟩
  before := [' ']
  operator := .matchesPattern
  after := []
  quote := '"'
  value := "or 'x' !== \"null\"".toList

theorem compile_quoted_sizePattern :
    sizePattern.IsQuoted ∧ sizePattern.IsKnown inventory "Machine" "Host" ∧
      compile inventory .alternativesLast "Machine" ["host.size =~\"or 'x' !== \"null\"\""] =
        .ok (.leaf ⟨.matchesPattern, ⟨"Machine", some "host", "size"⟩,
          some "/or 'x' !== \"null\"/"⟩) ∧
      compileClause inventory "Machine" "or host.size =~\"or 'x' !== \"null\"\"" =
        .ok ⟨true, ⟨.matchesPattern, ⟨"Machine", some "host", "size"⟩,
          some "/or 'x' !== \"null\"/"⟩⟩ := by
  have plain : sizePattern.path.IsPlain := by
    constructor
    · exact ⟨by decide, by decide, by decide, fun operator => by cases operator <;> decide⟩
    · intro association given
      cases given
      exact ⟨by decide, by decide, by decide, fun operator => by cases operator <;> decide⟩
  have quoted : sizePattern.IsQuoted :=
    ⟨plain, List.forall_mem_singleton.mpr rfl, List.forall_mem_nil _, .inr rfl, by decide⟩
  have known : sizePattern.IsKnown inventory "Machine" "Host" :=
    ⟨rfl, .inl rfl, by unfold IsTimed; decide⟩
  have apart : ¬ sizePattern.IsMerged := fun merged => absurd merged.close (List.cons_ne_nil _ _)
  obtain ⟨compared, value, compiles⟩ := compile_quoted quoted known
  have slashed : compared = "/or 'x' !== \"null\"/".toList := by
    cases value with
    | literal plain => exact absurd (by decide) plain
    | slashed explicit body already => cases already
    | bare explicit unlike => rfl
  rw [slashed] at compiles
  exact ⟨quoted, known, (compiles .alternativesLast false _ (.plain rfl)).2.mpr apart,
    (compiles .alternativesLast true _ .alternative).1.mpr apart⟩

/-- Switches have an attribute whose name is that of another with an exclamation mark. -/
def switches : Schema := .ofTypes (.ofList [
  ("Switch", ⟨.ofList [("on", .string), ("on!", .string)], .empty, .empty⟩)])

/-- The second attribute is asked for without blanks. -/
def hurried : QuotedClause := ⟨⟨none, "on!"⟩, [], .equal, [], '\'', ['y', 'e', 's']⟩

/-- The exclamation mark of the name is read as part of the operator: the clause asks the other
attribute for the opposite. -/
theorem compile_merged :
    hurried.IsQuoted ∧ hurried.IsKnown switches "Switch" "Switch" ∧
      hurried.IsWritten false "on!='yes'".toList ∧
      compile switches .alternativesLast "Switch" ["on!='yes'"] =
        .ok (.leaf ⟨.notEqual, ⟨"Switch", none, "on"⟩, some "yes"⟩) ∧
      compile switches .alternativesLast "Switch" ["on!='yes'"] ≠
        .ok (.leaf ⟨.equal, ⟨"Switch", none, "on!"⟩, some "yes"⟩) := by
  have plain : hurried.path.IsPlain := by
    constructor
    · exact ⟨by decide, by decide, by decide, fun operator => by cases operator <;> decide⟩
    · intro association given
      cases given
  have compiled : compile switches .alternativesLast "Switch" ["on!='yes'"] =
      .ok (.leaf ⟨.notEqual, ⟨"Switch", none, "on"⟩, some "yes"⟩) := rfl
  refine ⟨⟨plain, List.forall_mem_nil _, List.forall_mem_nil _, .inl rfl, by decide⟩,
    ⟨rfl, .inl rfl, by unfold IsTimed; decide⟩, .plain rfl, compiled, fun same => ?_⟩
  rw [compiled] at same
  cases same

end QuotedClause

end Filter

end ResourceRouter
