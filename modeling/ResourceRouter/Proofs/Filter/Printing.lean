import ResourceRouter.Proofs.Filter.Arrangement
import ResourceRouter.Proofs.Filter.Quotation

set_option autoImplicit false

/-!
Printed clauses. Whatever blanks stand around the parts of a clause, reading its text gives the clause
back. The value may contain operators, points and markers, because it is not looked at before the
operator is found; only a clause that starts like a marker without having one is read as another.
-/

namespace ResourceRouter.Clause

section Markers

variable {marker first second : List Char}

/-- A text starts like a marker or not whatever follows a character that is in no marker. -/
theorem isMarked_append (apart : ∀ c ∈ second.head?, c.toLower ∉ ['o', 'r', ' ']) :
    isMarked (first ++ second) = isMarked first := by
  cases second with
  | nil => rw [List.append_nil]
  | cons c second =>
      have unlike := apart c rfl
      simp only [List.mem_cons, List.not_mem_nil, or_false, not_or] at unlike
      rcases first with - | ⟨o, - | ⟨r, - | ⟨space, first⟩⟩⟩ <;> simp [isMarked, unlike]

/-- A marker has two letters and a blank. -/
theorem exists_letters (marked : marker.map Char.toLower = ['o', 'r', ' ']) :
    ∃ o r, marker = [o, r, ' '] ∧ o.toLower = 'o' ∧ r.toLower = 'r' := by
  obtain ⟨o, rest, rfl, first, others⟩ := List.map_eq_cons_iff.mp marked
  obtain ⟨r, rest, rfl, second, others⟩ := List.map_eq_cons_iff.mp others
  obtain ⟨blank, rest, rfl, third, others⟩ := List.map_eq_cons_iff.mp others
  rw [List.map_eq_nil_iff] at others
  exact ⟨o, r, by rw [others, eq_blank_of_toLower third], first, second⟩

theorem isMarked_marker_append (marked : marker.map Char.toLower = ['o', 'r', ' ']) :
    isMarked (marker ++ second) = true := by
  obtain ⟨o, r, rfl, first, second⟩ := exists_letters marked
  simp [isMarked, first, second]

theorem unmarked_marker_append (marked : marker.map Char.toLower = ['o', 'r', ' ']) :
    unmarked (marker ++ second) = Text.trimStart second := by
  rw [unmarked, if_pos (isMarked_marker_append marked)]
  obtain ⟨o, r, rfl, -, -⟩ := exists_letters marked
  rfl

/-- A blank is its own small form. -/
theorem toLower_of_blank {c : Char} (blank : Text.isBlank c = true) : c.toLower = c := by
  unfold Char.toLower
  split
  case isTrue large =>
    have least := UInt32.le_iff_toNat_le.mp large.1
    have greatest := UInt32.le_iff_toNat_le.mp large.2
    simp only [UInt32.reduceToNat, Char.reduceVal] at least greatest
    have solid : Text.isBlank c = false :=
      Text.isBlank_of_visible (show 0x20 < c.val.toNat by omega) (show c.val.toNat < 0x7F by omega)
    rw [solid] at blank
    cases blank
  case isFalse => rfl

theorem head?_marker (marked : marker.map Char.toLower = ['o', 'r', ' ']) :
    ∀ c ∈ marker.head?, Text.isBlank c = false := by
  obtain ⟨o, r, rfl, letter, -⟩ := exists_letters marked
  intro c first
  cases first
  by_contra blank
  rw [Bool.not_eq_false] at blank
  rw [toLower_of_blank blank] at letter
  rw [letter] at blank
  cases blank

end Markers

/-- How a clause is laid out: the letters of its marker, and the blanks around its parts. -/
structure Layout where
  lead : List Char
  marker : List Char
  behindMarker : List Char
  beforePoint : List Char
  behindPoint : List Char
  beforeOperator : List Char
  behindOperator : List Char
  trail : List Char

/-- The marker is written in any case of its letters, and nothing but blanks stands in the gaps, of
which those around the operator are not empty. -/
structure Layout.IsSpaced (layout : Layout) : Prop where
  marker : layout.marker.map Char.toLower = ['o', 'r', ' ']
  lead : ∀ c ∈ layout.lead, Text.isBlank c = true
  behindMarker : ∀ c ∈ layout.behindMarker, Text.isBlank c = true
  beforePoint : ∀ c ∈ layout.beforePoint, Text.isBlank c = true
  behindPoint : ∀ c ∈ layout.behindPoint, Text.isBlank c = true
  beforeOperator : ∀ c ∈ layout.beforeOperator, Text.isBlank c = true
  behindOperator : ∀ c ∈ layout.behindOperator, Text.isBlank c = true
  trail : ∀ c ∈ layout.trail, Text.isBlank c = true
  apart : layout.beforeOperator ≠ [] ∧ layout.behindOperator ≠ []

/-- One blank between the parts, none around the point and at the ends. -/
def Layout.usual : Layout := ⟨[], ['o', 'r', ' '], [], [], [], [' '], [' '], []⟩

theorem Layout.isSpaced_usual : Layout.usual.IsSpaced := by
  constructor
  case marker => decide
  case apart => exact ⟨List.cons_ne_nil _ _, List.cons_ne_nil _ _⟩
  all_goals exact List.all_eq_true.mp rfl

/-- What stands between the marker of a clause and its operator. -/
def subject (clause : Clause) (layout : Layout) : List Char :=
  clause.path.spaced layout.beforePoint layout.behindPoint ++ layout.beforeOperator

/-- The marker of a clause, if it has one. -/
def opening (clause : Clause) (layout : Layout) : List Char :=
  if clause.alternative then layout.marker ++ layout.behindMarker else []

/-- The text of a clause in a layout. -/
def print (clause : Clause) (layout : Layout) : List Char :=
  layout.lead ++ (clause.opening layout ++ clause.subject layout) ++
    (clause.operator.text.toList ++ (layout.behindOperator ++ (clause.value ++ layout.trail)))

/-- What is left behind the operator of a printed clause once the clause is trimmed. -/
def tail (clause : Clause) (layout : Layout) : List Char :=
  Text.dropTrailing Text.isBlank (layout.behindOperator ++ (clause.value ++ layout.trail))

/-- A clause can be printed in a layout: its names are plain and its value is trimmed. -/
structure IsPrintable (clause : Clause) (layout : Layout) : Prop where
  plain : clause.path.IsPlain
  trimmed : Text.trim clause.value = clause.value
  spaced : layout.IsSpaced

/-- Without a marker, a clause does not start like one. A text that does is that of another clause, which
has the marker. -/
def IsUnmistakable (clause : Clause) (layout : Layout) : Prop :=
  clause.alternative = false → isMarked (clause.subject layout) = false

section Printed

variable {clause : Clause} {layout : Layout} (printable : clause.IsPrintable layout)
include printable

theorem subject_ne_nil : clause.subject layout ≠ [] :=
  List.append_ne_nil_of_left_ne_nil (AttributePath.spaced_ne_nil printable.plain) _

theorem head?_subject : ∀ c ∈ (clause.subject layout).head?, Text.isBlank c = false := by
  rw [subject, List.head?_append_of_ne_nil _ (AttributePath.spaced_ne_nil printable.plain)]
  exact AttributePath.head?_spaced printable.plain

/-- A marker or a name stands first. -/
theorem head?_opening_append :
    ∀ c ∈ (clause.opening layout ++ clause.subject layout).head?, Text.isBlank c = false := by
  unfold opening
  split
  · have marked := printable.spaced.marker
    have present : layout.marker ≠ [] := by
      intro missing
      rw [missing] at marked
      cases marked
    rw [List.append_assoc, List.head?_append_of_ne_nil _ present]
    exact head?_marker marked
  · exact head?_subject printable

theorem isFree_subject : Operator.IsFree (clause.subject layout) := by
  obtain ⟨plain, -, spaced⟩ := printable
  have path := AttributePath.isFree_spaced plain spaced.beforePoint spaced.behindPoint
  exact Operator.isFree_append_blanks path spaced.beforeOperator

theorem isWritten_subject : clause.path.IsWritten (clause.subject layout) := by
  obtain ⟨plain, -, spaced⟩ := printable
  exact AttributePath.isWritten_spaced plain spaced.beforePoint spaced.behindPoint
    spaced.beforeOperator

theorem trim_tail : Text.trim (clause.tail layout) = clause.value := by
  obtain ⟨-, trimmed, spaced⟩ := printable
  rw [tail, Text.trim_dropTrailing, Text.trim_blanks_append spaced.behindOperator,
    Text.trim_append_blanks spaced.trail, trimmed]

/-- A blank separates the operator from a value that starts like the rest of an operator. -/
theorem head?_tail : ∀ d ∈ (clause.tail layout).head?, d ∉ ['=', '~'] := by
  intro d first
  obtain ⟨rest, shape⟩ := List.head?_eq_some_iff.mp first
  have start : d :: rest <+: layout.behindOperator ++ (clause.value ++ layout.trail) := by
    rw [← shape]
    exact Text.dropTrailing_prefix _
  obtain ⟨c, gap, blanks⟩ := List.exists_cons_of_ne_nil printable.spaced.apart.2
  rw [blanks, List.cons_append, List.cons_prefix_cons] at start
  have inside : d ∈ layout.behindOperator := by
    rw [blanks, start.1]
    exact List.mem_cons_self
  exact Text.notMem_of_blank (printable.spaced.behindOperator d inside) rfl

/-- Without the blanks around it, a printed clause is its marker, its subject, its operator and its
tail. -/
theorem trim_print :
    Text.trim (clause.print layout) = clause.opening layout ++
      (clause.subject layout ++ (clause.operator.text.toList ++ clause.tail layout)) := by
  rw [print, Text.trim_around (Operator.text_ne_nil _) (Operator.isBlank_of_mem_text _),
    Text.trimStart_blanks_append printable.spaced.lead,
    Text.trimStart_of_head (head?_opening_append printable), List.append_assoc]
  rfl

omit printable in
/-- Neither the operator nor what stands behind it makes a marker. -/
theorem isMarked_subject_append (clause : Clause) (layout : Layout) :
    isMarked (clause.subject layout ++ (clause.operator.text.toList ++ clause.tail layout)) =
      isMarked (clause.subject layout) := by
  apply isMarked_append
  rw [List.head?_append_of_ne_nil _ (Operator.text_ne_nil clause.operator)]
  intro c first
  cases operator : clause.operator <;> rw [operator] at first <;> cases first <;> decide

theorem isAlternative_print :
    isAlternative (String.ofList (clause.print layout)) =
      (clause.alternative || isMarked (clause.subject layout)) := by
  rw [isAlternative, String.toList_ofList, trim_print printable, opening]
  cases clause.alternative with
  | true =>
      rw [if_pos rfl, List.append_assoc, isMarked_marker_append printable.spaced.marker]
      rfl
  | false =>
      rw [if_neg Bool.false_ne_true, List.nil_append, isMarked_subject_append]
      rfl

/-- Reading removes the marker, if there is one, and nothing else. -/
theorem unmarked_trim_print (unmistakable : clause.IsUnmistakable layout) :
    unmarked (Text.trim (clause.print layout)) =
      clause.subject layout ++ (clause.operator.text.toList ++ clause.tail layout) := by
  rw [trim_print printable, opening]
  cases mark : clause.alternative with
  | true =>
      rw [if_pos rfl, List.append_assoc, unmarked_marker_append printable.spaced.marker,
        Text.trimStart_blanks_append printable.spaced.behindMarker]
      apply Text.trimStart_of_head
      rw [List.head?_append_of_ne_nil _ (subject_ne_nil printable)]
      exact head?_subject printable
  | false =>
      rw [if_neg Bool.false_ne_true, List.nil_append, unmarked, isMarked_subject_append,
        unmistakable mark]
      rfl

theorem isFirstIn_print :
    Operator.Split.IsFirstIn ⟨clause.subject layout, clause.operator, clause.tail layout⟩
      (clause.subject layout ++ (clause.operator.text.toList ++ clause.tail layout)) := by
  apply Operator.isFirstIn_of_isFree (isFree_subject printable)
  · rintro ⟨mark, -⟩
    -- A blank separates the operator from a name that ends in an exclamation mark.
    rw [subject, List.getLast?_append_of_ne_nil _ printable.spaced.apart.1] at mark
    cases printable.spaced.beforeOperator '!' (List.mem_of_getLast? mark)
  · exact head?_tail printable

/-- A clause that does not start like a marked one is read as it was printed. -/
theorem parse_of_isUnmistakable (unmistakable : clause.IsUnmistakable layout) :
    parse (String.ofList (clause.print layout)) = .ok clause := by
  have mark : isMarked (Text.trim (clause.print layout)) = clause.alternative := by
    have alternative := isAlternative_print printable
    rw [isAlternative, String.toList_ofList] at alternative
    rw [alternative]
    cases plain : clause.alternative with
    | true => rfl
    | false => rw [unmistakable plain]; rfl
  rw [parse_eq_ok_iff, String.toList_ofList, mark, unmarked_trim_print printable unmistakable]
  refine ⟨_, clause.path, isFirstIn_print printable, isWritten_subject printable, ?_⟩
  rw [trim_tail printable]

section Compiled

variable (unmistakable : clause.IsUnmistakable layout) (schema : Schema) (typeName : String)
include unmistakable

/-- A printed clause compiles as its path resolves and its value is interpreted. -/
theorem compileClause_print :
    Filter.compileClause schema typeName (String.ofList (clause.print layout)) =
      (Filter.resolveField schema typeName clause.path).bind fun resolved =>
        (Filter.interpret clause.operator clause.value resolved.2).map fun read =>
          ⟨clause.alternative, ⟨read.1, resolved.1, read.2⟩⟩ := by
  rw [Filter.compileClause, parse_of_isUnmistakable printable unmistakable]
  rfl

theorem compile_print (grouping : Grouping) :
    Filter.compile schema grouping typeName [String.ofList (clause.print layout)] =
      (Filter.resolveField schema typeName clause.path).bind fun resolved =>
        (Filter.interpret clause.operator clause.value resolved.2).map fun read =>
          .leaf ⟨read.1, resolved.1, read.2⟩ := by
  rw [Filter.compile_singleton, compileClause_print printable unmistakable]
  cases Filter.resolveField schema typeName clause.path with
  | error fault => rfl
  | ok resolved =>
      simp only [Except.bind]
      cases Filter.interpret clause.operator clause.value resolved.2 <;> rfl

end Compiled

/-- Reading undoes printing, unless a clause without a marker is printed as a text that starts with
one. -/
theorem parse_print_iff :
    parse (String.ofList (clause.print layout)) = .ok clause ↔
      (clause.alternative = false →
        isAlternative (String.ofList (clause.print layout)) = false) := by
  constructor
  · intro parsed plain
    rw [← plain]
    exact (alternative_of_parse parsed).symm
  · intro unlike
    apply parse_of_isUnmistakable printable
    intro plain
    have unmarked := unlike plain
    rwa [isAlternative_print printable, plain, Bool.false_or] at unmarked

end Printed

/-- An attribute whose name ends in an exclamation mark, compared with a value that starts like the rest
of an operator and has a marker, a point and another operator in it. -/
def crowded : Clause := ⟨⟨some "host", "on!"⟩, .equal, "= or 'a.b' !~ null".toList, true⟩

/-- Blanks of several kinds in every gap. -/
def airy : Layout :=
  ⟨['\t'], ['o', 'R', ' '], [' '], [' '], ['\n', ' '], [' '], ['\u00a0'], ['\r', '\n']⟩

theorem parse_print_crowded :
    crowded.IsPrintable airy ∧
      String.ofList (crowded.print airy) =
        "\toR  host .\n on! =\u00a0= or 'a.b' !~ null\r\n" ∧
      parse "\toR  host .\n on! =\u00a0= or 'a.b' !~ null\r\n" = .ok crowded := by
  have spaced : airy.IsSpaced := by
    constructor
    case marker => decide
    case apart => exact ⟨List.cons_ne_nil _ _, List.cons_ne_nil _ _⟩
    all_goals exact List.all_eq_true.mp rfl
  have printable : crowded.IsPrintable airy := ⟨by decide, by decide, spaced⟩
  have text : String.ofList (crowded.print airy) =
      "\toR  host .\n on! =\u00a0= or 'a.b' !~ null\r\n" := by decide
  refine ⟨printable, text, ?_⟩
  rw [← text]
  apply (parse_print_iff printable).mpr
  intro unmarked
  cases unmarked

end ResourceRouter.Clause
