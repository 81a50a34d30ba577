import ResourceRouter.Proofs.Address.Names

set_option autoImplicit false

/-!
What version tags look like. The scan of a tag accepts exactly the texts that are the letter, a
number, any numbers behind points, and at most one suffix behind a hyphen. So no tag has a blank.
-/

namespace ResourceRouter

namespace VersionTag

/-- One or more decimal digits, of any script. -/
def IsNumber (text : List Char) : Prop := text ≠ [] ∧ ∀ c ∈ text, Text.isDecimalDigit c = true

/-- One or more ASCII digits, ASCII letters and points. -/
def IsSuffix (text : List Char) : Prop :=
  text ≠ [] ∧ ∀ c ∈ text,
    ('0' ≤ c ∧ c ≤ '9') ∨ ('A' ≤ c ∧ c ≤ 'Z') ∨ ('a' ≤ c ∧ c ≤ 'z') ∨ c = '.'

/-- What may stand behind the first number of a tag. -/
structure Tail where
  numbers : List (List Char)
  suffix : Option (List Char)
  numbers_valid : ∀ number ∈ numbers, IsNumber number
  suffix_valid : ∀ text ∈ suffix, IsSuffix text

/-- Each number follows a point, and the suffix a hyphen. -/
def Tail.text (tail : Tail) : List Char :=
  tail.numbers.flatMap ('.' :: ·) ++ tail.suffix.toList.flatMap ('-' :: ·)

end VersionTag

/-- A version tag by its parts. -/
structure VersionTag where
  major : List Char
  tail : VersionTag.Tail
  major_valid : VersionTag.IsNumber major

namespace VersionTag

def text (tag : VersionTag) : List Char := 'v' :: (tag.major ++ tag.tail.text)

namespace Tail

def nothing : Tail := ⟨[], none, by simp, by simp⟩

def ofSuffix (suffix : List Char) (valid : IsSuffix suffix) : Tail :=
  ⟨[], some suffix, by simp, by simpa using valid⟩

def behind (number : List Char) (valid : IsNumber number) (tail : Tail) : Tail where
  numbers := number :: tail.numbers
  suffix := tail.suffix
  numbers_valid := List.forall_mem_cons.mpr ⟨valid, tail.numbers_valid⟩
  suffix_valid := tail.suffix_valid

@[simp] theorem text_nothing : nothing.text = [] := rfl

@[simp] theorem text_ofSuffix (suffix : List Char) (valid : IsSuffix suffix) :
    (ofSuffix suffix valid).text = '-' :: suffix := by
  simp [ofSuffix, text]

@[simp] theorem text_behind (number : List Char) (valid : IsNumber number) (tail : Tail) :
    (behind number valid tail).text = '.' :: (number ++ tail.text) := by
  simp [behind, text]

/-- A tail is nothing, a suffix, or one more number in front of a tail. -/
@[induction_eliminator]
theorem induction {motive : Tail → Prop} (nothing : motive nothing)
    (ofSuffix : ∀ suffix valid, motive (ofSuffix suffix valid))
    (behind : ∀ number valid tail, motive tail → motive (behind number valid tail)) (tail : Tail) :
    motive tail := by
  obtain ⟨numbers, suffix, numbersValid, suffixValid⟩ := tail
  induction numbers with
  | nil =>
      cases suffix with
      | none => exact nothing
      | some suffix => exact ofSuffix suffix (suffixValid suffix rfl)
  | cons number numbers ih =>
      obtain ⟨valid, later⟩ := List.forall_mem_cons.mp numbersValid
      exact behind number valid ⟨numbers, suffix, later, suffixValid⟩ (ih later)

end Tail

section Scan

theorem isSuffixChar_iff {c : Char} :
    isSuffixChar c = true ↔
      ('0' ≤ c ∧ c ≤ '9') ∨ ('A' ≤ c ∧ c ≤ 'Z') ∨ ('a' ≤ c ∧ c ≤ 'z') ∨ c = '.' := by
  simp only [isSuffixChar, Char.isAlphanum, Char.isAlpha, Char.isUpper, Char.isLower, Char.isDigit,
    Bool.or_eq_true, Bool.and_eq_true, decide_eq_true_eq, beq_iff_eq, Char.le_def]
  tauto

theorem accepts_inSuffix {text : List Char} :
    accepts .inSuffix text = true ↔ ∀ c ∈ text, isSuffixChar c = true := by
  induction text with
  | nil => simp [accepts]
  | cons c rest ih => simp [accepts, ih]

theorem accepts_beforeSuffix {text : List Char} :
    accepts .beforeSuffix text = true ↔ IsSuffix text := by
  cases text with
  | nil => simp [accepts, IsSuffix]
  | cons c rest => simp [accepts, accepts_inSuffix, IsSuffix, isSuffixChar_iff]

/-- Further digits do not end a number. -/
theorem accepts_inNumber_append {digits : List Char}
    (run : ∀ c ∈ digits, Text.isDecimalDigit c = true) (rest : List Char) :
    accepts .inNumber (digits ++ rest) = accepts .inNumber rest := by
  induction digits with
  | nil => rfl
  | cons c digits ih =>
      obtain ⟨digit, later⟩ := List.forall_mem_cons.mp run
      rw [List.cons_append, accepts, if_pos digit, ih later]

theorem accepts_beforeNumber_append {number : List Char} (valid : IsNumber number)
    (rest : List Char) : accepts .beforeNumber (number ++ rest) = accepts .inNumber rest := by
  obtain ⟨given, run⟩ := valid
  cases number with
  | nil => exact absurd rfl given
  | cons c digits =>
      obtain ⟨digit, later⟩ := List.forall_mem_cons.mp run
      rw [List.cons_append, accepts, digit, Bool.true_and, accepts_inNumber_append later]

theorem accepts_tail (tail : Tail) : accepts .inNumber tail.text = true := by
  induction tail with
  | nothing => rfl
  | ofSuffix suffix valid =>
      rw [Tail.text_ofSuffix]
      exact accepts_beforeSuffix.mpr valid
  | behind number valid tail ih =>
      rw [Tail.text_behind]
      exact (accepts_beforeNumber_append valid tail.text).trans ih

/-- What is accepted inside a number is digits and a tail, and before a number the same with at least
one digit. Each of the two states leads to the other, so one induction is for both. -/
theorem exists_tail_of_accepts (text : List Char) :
    (accepts .inNumber text = true → ∃ (digits : List Char) (tail : Tail),
      (∀ c ∈ digits, Text.isDecimalDigit c = true) ∧ text = digits ++ tail.text) ∧
    (accepts .beforeNumber text = true → ∃ (number : List Char) (tail : Tail),
      IsNumber number ∧ text = number ++ tail.text) := by
  induction text with
  | nil => exact ⟨fun _ => ⟨[], .nothing, by simp, rfl⟩, fun taken => by cases taken⟩
  | cons c rest ih =>
      obtain ⟨inside, before⟩ := ih
      constructor
      · intro taken
        rw [accepts] at taken
        split at taken
        · next digit =>
            obtain ⟨digits, tail, run, rfl⟩ := inside taken
            exact ⟨c :: digits, tail, List.forall_mem_cons.mpr ⟨digit, run⟩, rfl⟩
        split at taken
        · next point =>
            obtain ⟨number, tail, valid, rfl⟩ := before taken
            refine ⟨[], .behind number valid tail, by simp, ?_⟩
            rw [point, Tail.text_behind, List.nil_append]
        split at taken
        · next hyphen =>
            have valid := accepts_beforeSuffix.mp taken
            refine ⟨[], .ofSuffix rest valid, by simp, ?_⟩
            rw [hyphen, Tail.text_ofSuffix, List.nil_append]
        · cases taken
      · intro taken
        obtain ⟨digit, later⟩ := Bool.and_eq_true_iff.mp taken
        obtain ⟨digits, tail, run, rfl⟩ := inside later
        have valid : IsNumber (c :: digits) :=
          ⟨List.cons_ne_nil c digits, List.forall_mem_cons.mpr ⟨digit, run⟩⟩
        exact ⟨c :: digits, tail, valid, rfl⟩

theorem isVersionTag_of_text {segment : String} {tag : VersionTag}
    (written : segment.toList = tag.text) : isVersionTag segment = true := by
  rw [isVersionTag, written]
  exact (accepts_beforeNumber_append tag.major_valid tag.tail.text).trans (accepts_tail tag.tail)

theorem exists_text_of_isVersionTag {segment : String} (recognised : isVersionTag segment = true) :
    ∃ tag : VersionTag, segment.toList = tag.text := by
  unfold isVersionTag at recognised
  split at recognised
  · next rest letter =>
      obtain ⟨number, tail, valid, rfl⟩ := (exists_tail_of_accepts rest).2 recognised
      exact ⟨⟨number, tail, valid⟩, letter⟩
  · cases recognised

end Scan

end VersionTag

/-- A segment is recognised exactly if it is written as a version tag, with nothing in front of it and
nothing behind. -/
theorem isVersionTag_iff (segment : String) :
    isVersionTag segment = true ↔ ∃ tag : VersionTag, segment.toList = tag.text := by
  constructor
  · exact VersionTag.exists_text_of_isVersionTag
  · rintro ⟨tag, written⟩
    exact VersionTag.isVersionTag_of_text written

example : isVersionTag "v3.0.0-pre" = true ∧ isVersionTag "v3\n" = false := by decide

section Blanks

theorem Text.isBlank_of_isDecimalDigit {c : Char} (digit : isDecimalDigit c = true) :
    isBlank c = false := by
  have each : ∀ n ∈ List.range' 9 5 ++ [0x20, 0x85, 0xA0, 0x1680] ++ List.range' 0x2000 11 ++
      [0x2028, 0x2029, 0x202F, 0x205F, 0x3000],
      decimalZeros.any (fun start => start ≤ n && n < start + 10) = false := by
    decide
  by_contra blank
  have listed : c.toNat ∈ List.range' 9 5 ++ [0x20, 0x85, 0xA0, 0x1680] ++ List.range' 0x2000 11 ++
      [0x2028, 0x2029, 0x202F, 0x205F, 0x3000] := by
    simp only [isBlank, Bool.or_eq_true, Bool.and_eq_true, decide_eq_true_eq, beq_iff_eq,
      Bool.not_eq_false] at blank
    simp only [List.mem_append, List.mem_range'_1, List.mem_cons, List.not_mem_nil, or_false]
    omega
  rw [isDecimalDigit, each c.toNat listed] at digit
  cases digit

namespace VersionTag

theorem isBlank_of_isSuffixChar {c : Char} (held : isSuffixChar c = true) :
    Text.isBlank c = false := by
  apply Locator.isBlank_of_isPathChar
  simp only [isSuffixChar, Bool.or_eq_true] at held
  rcases held with letter | point <;> simp [Locator.isPathChar, Locator.isNameChar, *]

theorem isBlank_of_isNumber {number : List Char} (valid : IsNumber number) :
    ∀ c ∈ number, Text.isBlank c = false :=
  fun c inside => Text.isBlank_of_isDecimalDigit (valid.2 c inside)

theorem Tail.isBlank_text (tail : Tail) : ∀ c ∈ tail.text, Text.isBlank c = false := by
  induction tail with
  | nothing => simp
  | ofSuffix suffix valid =>
      rw [Tail.text_ofSuffix, List.forall_mem_cons]
      refine ⟨by decide, fun c inside => ?_⟩
      exact isBlank_of_isSuffixChar (isSuffixChar_iff.mpr (valid.2 c inside))
  | behind number valid tail ih =>
      rw [Tail.text_behind, List.forall_mem_cons, List.forall_mem_append]
      exact ⟨by decide, isBlank_of_isNumber valid, ih⟩

end VersionTag

/-- No part of a version tag is blank. -/
theorem isBlank_of_isVersionTag {segment : String} (recognised : isVersionTag segment = true) :
    ∀ c ∈ segment.toList, Text.isBlank c = false := by
  obtain ⟨tag, written⟩ := VersionTag.exists_text_of_isVersionTag recognised
  rw [written, VersionTag.text, List.forall_mem_cons, List.forall_mem_append]
  exact ⟨by decide, VersionTag.isBlank_of_isNumber tag.major_valid, tag.tail.isBlank_text⟩

end Blanks

end ResourceRouter
