import Mathlib.Data.List.Infix
import ResourceRouter.Filter.Operator
import ResourceRouter.Proofs.Text.Trimming

set_option autoImplicit false

/-!
Where a text is split: at the leftmost operator, and at the longest one that stands there. The parts
give the text back, and a text is not split exactly when no operator stands in it.
-/

namespace ResourceRouter.Operator

theorem mem_longestFirst (operator : Operator) : operator ∈ longestFirst := by
  cases operator <;> decide

theorem pairwise_longestFirst :
    longestFirst.Pairwise fun earlier later => later.text.length ≤ earlier.text.length := by
  decide

theorem text_ne_nil (operator : Operator) : operator.text.toList ≠ [] := by
  cases operator <;> decide

theorem isBlank_of_mem_text (operator : Operator) :
    ∀ c ∈ operator.text.toList, Text.isBlank c = false := by
  have solid : operator.text.toList.any Text.isBlank = false := by cases operator <;> rfl
  simpa using solid

theorem text_injective {first second : Operator} (same : first.text.toList = second.text.toList) :
    first = second := by
  revert same
  cases first <;> cases second <;> decide

/-- A text starts with no operator exactly when the search finds none. -/
theorem leading?_eq_none_iff {text : List Char} :
    leading? text = none ↔ ∀ operator : Operator, ¬ operator.text.toList <+: text := by
  simp only [leading?, List.find?_eq_none, List.isPrefixOf_iff_prefix, mem_longestFirst,
    forall_const]

/-- The operator at the start of a text is the longest of those that the text starts with. -/
theorem leading?_eq_some_iff {text : List Char} {operator : Operator} :
    leading? text = some operator ↔ operator.text.toList <+: text ∧
      ∀ other : Operator, other.text.toList <+: text →
        other.text.length ≤ operator.text.length := by
  have longest {found : Operator} (leads : leading? text = some found) :
      found.text.toList <+: text ∧ ∀ other : Operator, other.text.toList <+: text →
        other.text.length ≤ found.text.length := by
    obtain ⟨starts, before, after, order, unlike⟩ := List.find?_eq_some_iff_append.mp leads
    refine ⟨List.isPrefixOf_iff_prefix.mp starts, fun other otherStarts => ?_⟩
    have listed := mem_longestFirst other
    have sorted := pairwise_longestFirst
    rw [order] at listed sorted
    -- What is tried before does not fit, and what is tried after is no longer.
    rcases List.mem_append.mp listed with earlier | later
    · have absent := unlike other earlier
      rw [List.isPrefixOf_iff_prefix.mpr otherStarts] at absent
      cases absent
    · rcases List.mem_cons.mp later with rfl | later
      · exact le_rfl
      · exact (List.pairwise_cons.mp (List.pairwise_append.mp sorted).2.1).1 other later
  constructor
  · exact longest
  · rintro ⟨starts, atLeast⟩
    cases leads : leading? text with
    | none => exact absurd starts (leading?_eq_none_iff.mp leads operator)
    | some found =>
        obtain ⟨foundStarts, foundAtLeast⟩ := longest leads
        -- Both are at least as long as the other, and both start the text.
        have sameLength : found.text.toList.length = operator.text.toList.length := by
          simp only [String.length_toList]
          exact le_antisymm (atLeast found foundStarts) (foundAtLeast operator starts)
        have sameText : found.text.toList = operator.text.toList :=
          (List.prefix_of_prefix_length_le foundStarts starts sameLength.le).eq_of_length sameLength
        rw [text_injective sameText]

/-- A text is split at its first operator: the parts give the text back, no operator stands further
left, and no longer one stands in the same place. -/
structure Split.IsFirstIn (split : Split) (text : List Char) : Prop where
  whole : split.before ++ split.operator.text.toList ++ split.after = text
  leftmost : ∀ (operator : Operator) (before after : List Char),
    before ++ operator.text.toList ++ after = text → split.before.length ≤ before.length
  longest : ∀ (operator : Operator) (after : List Char),
    split.before ++ operator.text.toList ++ after = text →
      operator.text.length ≤ split.operator.text.length

section Steps

variable {text before after : List Char} {c : Char} {operator : Operator}

/-- A split at the start of a text is at the operator that leads. -/
theorem isFirstIn_start_iff :
    Split.IsFirstIn ⟨[], operator, after⟩ text ↔
      leading? text = some operator ∧ text.drop operator.text.length = after := by
  rw [leading?_eq_some_iff]
  constructor
  · rintro ⟨whole, -, longest⟩
    dsimp only at whole longest
    refine ⟨⟨⟨after, whole⟩, fun other starts => ?_⟩, ?_⟩
    · obtain ⟨back, written⟩ := starts
      exact longest other back written
    · rw [← whole, List.nil_append, ← String.length_toList, List.drop_left]
  · rintro ⟨⟨⟨back, written⟩, longest⟩, cut⟩
    have rest : back = after := by
      rw [← cut, ← written, ← String.length_toList, List.drop_left]
    constructor
    case whole => rw [← rest]; exact written
    case leftmost => exact fun _ _ _ _ => Nat.zero_le _
    case longest => exact fun other back same => longest other ⟨back, same⟩

/-- Where no operator leads, a text is split where its rest is. -/
theorem isFirstIn_cons_iff (unled : leading? (c :: text) = none) :
    Split.IsFirstIn ⟨c :: before, operator, after⟩ (c :: text) ↔
      Split.IsFirstIn ⟨before, operator, after⟩ text := by
  rw [leading?_eq_none_iff] at unled
  constructor
  · rintro ⟨whole, leftmost, longest⟩
    constructor
    case whole => exact (List.cons.inj whole).2
    case leftmost =>
      intro other front back written
      have further := leftmost other (c :: front) back (congrArg (c :: ·) written)
      exact Nat.le_of_succ_le_succ further
    case longest =>
      intro other back written
      exact longest other back (congrArg (c :: ·) written)
  · rintro ⟨whole, leftmost, longest⟩
    constructor
    case whole => exact congrArg (c :: ·) whole
    case leftmost =>
      intro other front back written
      cases front with
      | nil => exact absurd ⟨back, written⟩ (unled other)
      | cons d front => exact Nat.succ_le_succ (leftmost other front back (List.cons.inj written).2)
    case longest =>
      intro other back written
      exact longest other back (List.cons.inj written).2

end Steps

/-- The scan from left to right finds the first operator and nothing else. -/
theorem split?_eq_some_iff {text : List Char} {split : Split} :
    split? text = some split ↔ split.IsFirstIn text := by
  induction text generalizing split with
  | nil =>
      refine iff_of_false (by simp [split?]) fun first => text_ne_nil split.operator ?_
      have whole := first.whole
      simp only [List.append_eq_nil_iff] at whole
      exact whole.1.2
  | cons c rest ih =>
      obtain ⟨before, operator, after⟩ := split
      rw [split?]
      cases leads : leading? (c :: rest) with
      | some found =>
          cases before with
          | nil =>
              rw [isFirstIn_start_iff, leads]
              simp only [Option.some.injEq, Split.mk.injEq, true_and]
              refine and_congr_right fun same => ?_
              rw [same]
          | cons d before =>
              -- An operator leads, so a split further right is not leftmost.
              refine iff_of_false (by simp) fun first => ?_
              obtain ⟨back, written⟩ := (leading?_eq_some_iff.mp leads).1
              have start := first.leftmost found [] back written
              simp at start
      | none =>
          cases before with
          | nil =>
              rw [isFirstIn_start_iff, leads]
              simp
          | cons d before =>
              constructor
              · intro found
                obtain ⟨later, split, same⟩ := Option.map_eq_some_iff.mp found
                obtain ⟨rfl, rfl⟩ : c = d ∧ _ = before := List.cons.inj (congrArg Split.before same)
                cases same
                exact (isFirstIn_cons_iff leads).mpr (ih.mp split)
              · intro first
                obtain rfl : d = c := (List.cons.inj first.whole).1
                rw [ih.mpr ((isFirstIn_cons_iff leads).mp first)]
                rfl

/-- No operator stands in a text. -/
def IsFree (text : List Char) : Prop := ∀ operator : Operator, ¬ operator.text.toList <:+: text

instance : DecidablePred IsFree := fun text =>
  decidable_of_iff (∀ operator ∈ longestFirst, ¬ operator.text.toList <:+: text)
    (forall_congr' fun operator => forall_prop_of_true (mem_longestFirst operator))

/-- An exclamation mark at the end of one text makes an operator with the start of the next. -/
def Meets (first second : List Char) : Prop :=
  first.getLast? = some '!' ∧ ∃ d ∈ second.head?, d ∈ ['=', '~']

section Free

variable {text first second before after : List Char} {c : Char} {operator : Operator}

/-- An operator starts with a comparison sign, or with an exclamation mark and a sign. -/
theorem text_shape (operator : Operator) :
    ∃ c rest, operator.text.toList = c :: rest ∧
      (c ∈ ['<', '>', '='] ∨ c = '!' ∧ ∃ d ∈ rest.head?, d ∈ ['=', '~']) := by
  cases operator with
  | equal => exact ⟨'=', [], rfl, .inl (by decide)⟩
  | identical => exact ⟨'=', ['='], rfl, .inl (by decide)⟩
  | notEqual => exact ⟨'!', ['='], rfl, .inr ⟨rfl, '=', rfl, by decide⟩⟩
  | notIdentical => exact ⟨'!', ['=', '='], rfl, .inr ⟨rfl, '=', rfl, by decide⟩⟩
  | less => exact ⟨'<', [], rfl, .inl (by decide)⟩
  | greater => exact ⟨'>', [], rfl, .inl (by decide)⟩
  | atMost => exact ⟨'<', ['='], rfl, .inl (by decide)⟩
  | atLeast => exact ⟨'>', ['='], rfl, .inl (by decide)⟩
  | matchesPattern => exact ⟨'=', ['~'], rfl, .inl (by decide)⟩
  | matchesNotPattern => exact ⟨'!', ['~'], rfl, .inr ⟨rfl, '~', rfl, by decide⟩⟩

theorem leading?_cons_eq_none_iff :
    leading? (c :: text) = none ↔
      c ∉ ['<', '>', '='] ∧ (c = '!' → ∀ d ∈ text.head?, d ∉ ['=', '~']) := by
  rw [leading?_eq_none_iff]
  constructor
  · intro unled
    constructor
    · intro sign
      simp only [List.mem_cons, List.not_mem_nil, or_false] at sign
      rcases sign with rfl | rfl | rfl
      · exact unled .less ⟨text, rfl⟩
      · exact unled .greater ⟨text, rfl⟩
      · exact unled .equal ⟨text, rfl⟩
    · rintro rfl d next sign
      obtain ⟨rest, rfl⟩ := List.head?_eq_some_iff.mp next
      simp only [List.mem_cons, List.not_mem_nil, or_false] at sign
      rcases sign with rfl | rfl
      · exact unled .notEqual ⟨rest, rfl⟩
      · exact unled .matchesNotPattern ⟨rest, rfl⟩
  · rintro ⟨ordinary, apart⟩ operator starts
    obtain ⟨d, rest, written, kind⟩ := text_shape operator
    rw [written] at starts
    obtain ⟨rfl, later⟩ := List.cons_prefix_cons.mp starts
    rcases kind with sign | ⟨mark, e, next, sign⟩
    · exact ordinary sign
    · obtain ⟨tail, rfl⟩ := List.head?_eq_some_iff.mp next
      obtain ⟨back, rfl⟩ := later
      exact apart mark e rfl sign

theorem isFree_nil : IsFree [] := by
  intro operator inside
  exact text_ne_nil operator (List.infix_nil.mp inside)

theorem isFree_cons_iff : IsFree (c :: text) ↔ leading? (c :: text) = none ∧ IsFree text := by
  rw [leading?_eq_none_iff, IsFree, IsFree, ← forall_and]
  refine forall_congr' fun operator => ?_
  rw [List.infix_cons_iff, not_or]

/-- No operator has a blank in it. -/
theorem isFree_of_blank (blank : ∀ c ∈ text, Text.isBlank c = true) : IsFree text := by
  induction text with
  | nil => exact isFree_nil
  | cons c text ih =>
      have first := blank c List.mem_cons_self
      have ordinary : c ∉ ['<', '>', '=', '!'] := Text.notMem_of_blank first rfl
      rw [isFree_cons_iff, leading?_cons_eq_none_iff]
      refine ⟨⟨fun sign => ?_, fun mark => ?_⟩, ih fun d inside => blank d (.tail c inside)⟩
      · exact ordinary (List.mem_append_left ['!'] sign)
      · rw [mark] at ordinary
        exact absurd (by decide) ordinary

theorem Meets.cons (meets : Meets first second) : Meets (c :: first) second := by
  refine ⟨?_, meets.2⟩
  rw [List.getLast?_cons, meets.1]
  rfl

/-- No operator starts in a free text, not even one that goes on into what follows. -/
theorem leading?_cons_append (free : IsFree (c :: first)) (apart : ¬ Meets (c :: first) second) :
    leading? (c :: (first ++ second)) = none := by
  obtain ⟨ordinary, inner⟩ := leading?_cons_eq_none_iff.mp (isFree_cons_iff.mp free).1
  refine leading?_cons_eq_none_iff.mpr ⟨ordinary, fun mark d next sign => ?_⟩
  cases first with
  | nil =>
      apply apart
      rw [mark]
      exact ⟨rfl, d, next, sign⟩
  | cons e first => exact inner mark d next sign

theorem isFree_append (free : IsFree first) (later : IsFree second)
    (apart : ¬ Meets first second) : IsFree (first ++ second) := by
  induction first with
  | nil => exact later
  | cons c first ih =>
      rw [List.cons_append, isFree_cons_iff]
      refine ⟨leading?_cons_append free apart, ih (isFree_cons_iff.mp free).2 ?_⟩
      exact fun meets => apart meets.cons

theorem isFree_append_blanks (free : IsFree text) (blank : ∀ c ∈ second, Text.isBlank c = true) :
    IsFree (text ++ second) := by
  apply isFree_append free (isFree_of_blank blank)
  rintro ⟨-, d, next, sign⟩
  exact Text.notMem_of_blank (blank d (List.mem_of_head? next)) rfl sign

theorem isFree_blanks_append (blank : ∀ c ∈ first, Text.isBlank c = true) (free : IsFree text) :
    IsFree (first ++ text) := by
  apply isFree_append (isFree_of_blank blank) free
  rintro ⟨mark, -⟩
  cases blank '!' (List.mem_of_getLast? mark)

/-- A point keeps two texts apart. -/
theorem isFree_append_point (free : IsFree first) (later : IsFree second) :
    IsFree (first ++ '.' :: second) := by
  have dotted : IsFree ('.' :: second) := by
    rw [isFree_cons_iff, leading?_cons_eq_none_iff]
    exact ⟨⟨by decide, fun mark => absurd mark (by decide)⟩, later⟩
  apply isFree_append free dotted
  rintro ⟨-, d, next, sign⟩
  cases next
  revert sign
  decide

/-- An operator that another one starts with is the whole of it, or is followed by a sign. -/
theorem sign_of_longer {other : Operator} (starts : operator.text.toList <+: other.text.toList) :
    (other.text.toList.drop operator.text.length).head? ∈ [none, some '=', some '~'] := by
  revert starts
  cases operator <;> cases other <;> decide

/-- An operator is read whole, and nothing that is no sign is read with it. -/
theorem leading?_text_append (apart : ∀ d ∈ after.head?, d ∉ ['=', '~']) :
    leading? (operator.text.toList ++ after) = some operator := by
  refine leading?_eq_some_iff.mpr ⟨List.prefix_append _ _, fun other starts => ?_⟩
  by_contra longer
  have shorter : operator.text.toList.length ≤ other.text.toList.length := by
    rw [String.length_toList, String.length_toList]
    omega
  have within : operator.text.toList <+: other.text.toList :=
    List.prefix_of_prefix_length_le (List.prefix_append _ _) starts shorter
  obtain ⟨more, written⟩ := within
  have rest : other.text.toList.drop operator.text.length = more := by
    rw [← written, ← String.length_toList, List.drop_left]
  cases more with
  | nil =>
      have same := congrArg List.length written
      rw [List.append_nil, String.length_toList, String.length_toList] at same
      omega
  | cons d more =>
      have sign := sign_of_longer ⟨d :: more, written⟩
      rw [rest] at sign
      rw [← written, List.prefix_append_right_inj] at starts
      obtain ⟨back, rfl⟩ := starts
      exact apart d rfl (by simpa using sign)

/-- A text is split at the operator behind its free part. -/
theorem isFirstIn_of_isFree (free : IsFree before)
    (apart : ¬ Meets before (operator.text.toList ++ after))
    (next : ∀ d ∈ after.head?, d ∉ ['=', '~']) :
    Split.IsFirstIn ⟨before, operator, after⟩ (before ++ (operator.text.toList ++ after)) := by
  induction before with
  | nil =>
      apply isFirstIn_start_iff.mpr
      rw [List.nil_append, leading?_text_append next, ← String.length_toList, List.drop_left]
      exact ⟨rfl, rfl⟩
  | cons c before ih =>
      apply (isFirstIn_cons_iff (leading?_cons_append free apart)).mpr
      exact ih (isFree_cons_iff.mp free).2 fun meets => apart meets.cons

end Free

end ResourceRouter.Operator
