import ResourceRouter.Proofs.Filter.Operators

set_option autoImplicit false

/-!
The place of the first operator in a clause. The offsets in bytes are boundaries of characters with
exactly the operator between them, no operator stands at an earlier boundary, and no longer one at
the same. A clause has no such place exactly when none of the signs that make up operators is in it.
-/

namespace ResourceRouter

namespace Text

theorem byteLength_toList (text : String) : byteLength text.toList = text.utf8ByteSize := by
  rw [← String.ofList_toList (s := text), String.toList_ofList]
  induction text.toList with
  | nil => rfl
  | cons c rest ih =>
      rw [byteLength_cons, ih, String.ofList_cons, String.utf8ByteSize_append,
        String.utf8ByteSize_singleton]

section Cuts

variable {text before inner after : String}

theorem exists_splits (whole : before ++ after = text) :
    ∃ position : text.Pos, position.Splits before after := by
  have boundary : before.rawEndPos.IsValid text :=
    String.Pos.Raw.isValid_iff_exists_append.mpr ⟨before, after, whole.symm, rfl⟩
  exact ⟨⟨before.rawEndPos, boundary⟩, whole.symm, rfl⟩

theorem byteIdx_of_splits {position : text.Pos} (cut : position.Splits before after) :
    position.offset.byteIdx = before.utf8ByteSize :=
  congrArg String.Pos.Raw.byteIdx cut.offset_eq_rawEndPos

theorem toList_prefix_of_splits {position : text.Pos} (cut : position.Splits before after) :
    before.toList <+: text.toList :=
  ⟨after.toList, by rw [← String.toList_append, ← cut.eq_append]⟩

/-- Positions are in the order of the texts before them. -/
theorem le_iff_of_splits {first second : text.Pos} {earlier later : String}
    (cut : first.Splits before after) (other : second.Splits earlier later) :
    first ≤ second ↔ before.toList.length ≤ earlier.toList.length := by
  constructor
  · intro order
    obtain ⟨more, rfl, -⟩ := (cut.le_iff_exists_eq_append other).mp order
    rw [String.toList_append, List.length_append]
    exact Nat.le_add_right _ _
  · intro shorter
    obtain ⟨more, longer⟩ : before.toList <+: earlier.toList :=
      List.prefix_of_prefix_length_le (toList_prefix_of_splits cut) (toList_prefix_of_splits other)
        shorter
    rw [String.Pos.le_iff, String.Pos.Raw.le_iff, byteIdx_of_splits cut, byteIdx_of_splits other,
      ← byteLength_toList, ← byteLength_toList, ← longer, byteLength_append]
    exact Nat.le_add_right _ _

/-- What stands between two cuts of a text. -/
theorem extract_of_splits {start stop : text.Pos} (first : start.Splits before (inner ++ after))
    (last : stop.Splits (before ++ inner) after) : text.extract start stop = inner := by
  have bytes : text.toByteArray =
      before.toByteArray ++ (inner.toByteArray ++ after.toByteArray) := by
    rw [← String.toByteArray_append, ← String.toByteArray_append, ← first.eq_append]
  rw [← String.toByteArray_inj, String.toByteArray_extract, byteIdx_of_splits first,
    byteIdx_of_splits last, String.utf8ByteSize_append, bytes]
  calc (before.toByteArray ++ (inner.toByteArray ++ after.toByteArray)).extract
        (before.toByteArray.size + 0) (before.toByteArray.size + inner.toByteArray.size)
    _ = (inner.toByteArray ++ after.toByteArray).extract 0 inner.toByteArray.size :=
        ByteArray.extract_append_size_add
    _ = inner.toByteArray := ByteArray.extract_append_eq_left rfl

end Cuts

end Text

namespace Operator

/-- No operator stands in a text exactly when none of the three comparison signs does, nor an
exclamation mark with a tilde behind it. -/
theorem isFree_iff {text : List Char} :
    IsFree text ↔ '<' ∉ text ∧ '>' ∉ text ∧ '=' ∉ text ∧ ¬ ['!', '~'] <:+: text := by
  constructor
  · intro free
    refine ⟨?_, ?_, ?_, free .matchesNotPattern⟩
    · exact fun inside => free .less ((List.singleton_infix_iff _ _).mpr inside)
    · exact fun inside => free .greater ((List.singleton_infix_iff _ _).mpr inside)
    · exact fun inside => free .equal ((List.singleton_infix_iff _ _).mpr inside)
  · rintro ⟨less, greater, equal, tilde⟩ operator inside
    by_cases negated : operator = .matchesNotPattern
    · rw [negated] at inside
      exact tilde inside
    · have signs : '<' ∈ operator.text.toList ∨ '>' ∈ operator.text.toList ∨
          '=' ∈ operator.text.toList := by
        revert negated
        cases operator <;> decide
      rcases signs with sign | sign | sign
      · exact less (inside.subset sign)
      · exact greater (inside.subset sign)
      · exact equal (inside.subset sign)

theorem split?_eq_none_iff {text : List Char} : split? text = none ↔ IsFree text := by
  induction text with
  | nil => exact iff_of_true rfl isFree_nil
  | cons c rest ih =>
      rw [isFree_cons_iff, ← ih, split?]
      cases leading? (c :: rest) with
      | some operator => simp
      | none => simp

/-- An operator stands at a position of a text. -/
def StandsAt (operator : Operator) {text : String} (position : text.Pos) : Prop :=
  ∃ before after, position.Splits before (operator.text ++ after)

/-- An operator is the first one of a clause: it stands between two positions, the parts before and
after it make up the clause with it, no operator stands before it, not even one that reaches into it,
and no longer one stands in its place. -/
structure IsFirst (operator : Operator) {clause : String} (start stop : clause.Pos) : Prop where
  slice : clause.extract start stop = operator.text
  whole : (clause.sliceTo start).copy ++ operator.text ++ (clause.sliceFrom stop).copy = clause
  free : IsFree (clause.sliceTo start).copy.toList
  leftmost : ∀ (position : clause.Pos) (other : Operator), other.StandsAt position →
    start ≤ position
  longest : ∀ other : Operator, other.StandsAt start → other.text.length ≤ operator.text.length

section Places

variable {clause : String} {start stop : clause.Pos} {operator : Operator} {split : Split}

/-- Before the first operator there is none. -/
theorem Split.IsFirstIn.isFree_before {text : List Char} (first : split.IsFirstIn text) :
    IsFree split.before := by
  rintro other ⟨front, back, inside⟩
  have earlier := first.leftmost other front (back ++ split.operator.text.toList ++ split.after) (by
    rw [← first.whole, ← inside]
    simp only [List.append_assoc])
  have shorter := congrArg List.length inside
  have present := List.length_pos_of_ne_nil (text_ne_nil other)
  simp only [List.length_append] at shorter
  omega

/-- An operator at which the characters of a clause are split is its first, between the positions
around it. -/
theorem isFirst_of_splits {before after : String}
    (front : start.Splits before (operator.text ++ after))
    (back : stop.Splits (before ++ operator.text) after)
    (first : Split.IsFirstIn ⟨before.toList, operator, after.toList⟩ clause.toList) :
    operator.IsFirst start stop := by
  have left : (clause.sliceTo start).copy = before := start.splits.eq_left front
  have right : (clause.sliceFrom stop).copy = after := stop.splits.eq_right back
  constructor
  case slice => exact Text.extract_of_splits front back
  case whole => rw [left, right, back.eq_append]
  case free =>
    rw [left]
    exact first.isFree_before
  case leftmost =>
    rintro position other ⟨earlier, later, cut⟩
    apply (Text.le_iff_of_splits front cut).mpr
    apply first.leftmost other earlier.toList later.toList
    rw [cut.eq_append, String.toList_append, String.toList_append, List.append_assoc]
  case longest =>
    rintro other ⟨earlier, later, cut⟩
    obtain rfl : earlier = before := cut.eq_left front
    apply first.longest other later.toList
    rw [cut.eq_append, String.toList_append, String.toList_append, List.append_assoc]

/-- The characters of a clause are split at its first operator. -/
theorem IsFirst.isFirstIn (first : operator.IsFirst start stop) :
    Split.IsFirstIn
      ⟨(clause.sliceTo start).copy.toList, operator, (clause.sliceFrom stop).copy.toList⟩
      clause.toList := by
  constructor
  case whole => rw [← String.toList_append, ← String.toList_append, first.whole]
  case leftmost =>
    intro other front back written
    obtain ⟨position, cut⟩ : ∃ position : clause.Pos,
        position.Splits (String.ofList front) (other.text ++ String.ofList back) := by
      apply Text.exists_splits
      rw [← String.toList_inj, ← written]
      simp
    have order := (Text.le_iff_of_splits start.splits cut).mp (first.leftmost position other ⟨_, _, cut⟩)
    rw [String.toList_ofList] at order
    exact order
  case longest =>
    intro other back written
    apply first.longest other
    refine ⟨(clause.sliceTo start).copy, String.ofList back, ?_, start.splits.offset_eq_rawEndPos⟩
    rw [← String.toList_inj, ← written]
    simp

theorem IsFirst.splits (first : operator.IsFirst start stop) :
    stop.Splits ((clause.sliceTo start).copy ++ operator.text) (clause.sliceFrom stop).copy := by
  have same : (clause.sliceTo stop).copy ++ (clause.sliceFrom stop).copy =
      (clause.sliceTo start).copy ++ operator.text ++ (clause.sliceFrom stop).copy := by
    rw [first.whole, ← stop.splits.eq_append]
  rw [← (String.append_left_inj _).mp same]
  exact stop.splits

/-- The search gives the positions around the first operator as offsets in bytes. -/
theorem find?_eq_some_iff {found : Occurrence} :
    find? clause = some found ↔ ∃ start stop : clause.Pos, found.operator.IsFirst start stop ∧
      start.offset.byteIdx = found.start ∧ stop.offset.byteIdx = found.stop := by
  rw [find?, Option.map_eq_some_iff]
  constructor
  · rintro ⟨⟨before, operator, after⟩, scanned, rfl⟩
    have first := split?_eq_some_iff.mp scanned
    obtain ⟨front, rfl⟩ : ∃ front : String, front.toList = before :=
      ⟨String.ofList before, String.toList_ofList⟩
    obtain ⟨back, rfl⟩ : ∃ back : String, back.toList = after :=
      ⟨String.ofList after, String.toList_ofList⟩
    have whole : front ++ operator.text ++ back = clause := by
      rw [← String.toList_inj, String.toList_append, String.toList_append]
      exact first.whole
    obtain ⟨stop, ends⟩ := Text.exists_splits whole
    rw [String.append_assoc] at whole
    obtain ⟨start, starts⟩ := Text.exists_splits whole
    refine ⟨start, stop, isFirst_of_splits starts ends first, ?_, ?_⟩
    · rw [Text.byteIdx_of_splits starts, ← Text.byteLength_toList]
      rfl
    · rw [Text.byteIdx_of_splits ends, String.utf8ByteSize_append, ← Text.byteLength_toList]
      rfl
  · rintro ⟨start, stop, first, startOffset, stopOffset⟩
    refine ⟨_, split?_eq_some_iff.mpr first.isFirstIn, ?_⟩
    rw [Split.occurrence, Text.byteLength_toList, ← String.utf8ByteSize_append,
      ← Text.byteIdx_of_splits first.splits, ← Text.byteIdx_of_splits start.splits, startOffset,
      stopOffset]

end Places

/-- The search for an operator finds the first one and nothing else. It finds none exactly when the
clause has none of the comparison signs, nor an exclamation mark with a tilde behind it. -/
theorem find?_leftmost_longest (clause : String) :
    (find? clause = none ↔ '<' ∉ clause.toList ∧ '>' ∉ clause.toList ∧ '=' ∉ clause.toList ∧
      ¬ ['!', '~'] <:+: clause.toList) ∧
    ∀ found, find? clause = some found ↔ ∃ start stop : clause.Pos,
      found.operator.IsFirst start stop ∧ start.offset.byteIdx = found.start ∧
        stop.offset.byteIdx = found.stop := by
  constructor
  · rw [find?, Option.map_eq_none_iff, split?_eq_none_iff, isFree_iff]
  · exact fun found => find?_eq_some_iff

example : find? "größe !== 'a=b'" = some ⟨.notIdentical, 8, 11⟩ := by decide

end Operator

end ResourceRouter
