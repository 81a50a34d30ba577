import Mathlib.Data.List.Infix
import ResourceRouter.Filter.Value

set_option autoImplicit false

/-!
The regular expression for a value with wildcards. Escaping the value and then replacing its stars and
percent signs comes to one pass over its characters: no backslash of the value meets a star that is not
its own. The expression matches the texts that the value becomes when every wildcard is filled in.
-/

namespace ResourceRouter.Filter

/-- A character of a value as part of a regular expression. -/
def patternChar (c : Char) : List Char :=
  if isWildcard c then anyText else if isPatternChar c then ['\\', c] else [c]

section Passes

variable {c : Char} {rest : List Char}

theorem escape_cons (c : Char) (rest : List Char) :
    escape (c :: rest) = (if isPatternChar c then ['\\', c] else [c]) ++ escape rest :=
  List.flatMap_cons

/-- An escaped text never starts with a star, for that has a backslash before it. -/
theorem not_star_prefix_escape (text : List Char) : ¬ ['*'] <+: escape text := by
  cases text with
  | nil => simp [escape]
  | cons c rest =>
      rw [escape_cons]
      split
      case isTrue =>
        intro starts
        have first : '*' = '\\' := (List.cons_prefix_cons.mp starts).1
        cases first
      case isFalse plain =>
        intro starts
        have first : '*' = c := (List.cons_prefix_cons.mp starts).1
        rw [← first] at plain
        exact plain rfl

/-- Behind a character of the value, no escaped star starts within it. -/
theorem replace_cons_escape (c : Char) (rest : List Char) :
    Text.replace ['\\', '*'] anyText (c :: escape rest) =
      c :: Text.replace ['\\', '*'] anyText (escape rest) := by
  apply Text.replace_cons
  intro starts
  exact not_star_prefix_escape rest (List.cons_prefix_cons.mp starts).2

/-- The stars of a value are replaced one by one, whatever stands around them. -/
theorem replace_escape (value : List Char) :
    Text.replace ['\\', '*'] anyText (escape value) =
      value.flatMap fun c =>
        if c = '*' then anyText else if isPatternChar c then ['\\', c] else [c] := by
  induction value with
  | nil => rfl
  | cons c rest ih =>
      rw [escape_cons, List.flatMap_cons, ← ih]
      by_cases star : c = '*'
      · rw [if_pos star, star]
        exact Text.replace_append (List.cons_ne_nil _ _) (escape rest)
      · rw [if_neg star]
        split
        case isFalse => exact replace_cons_escape c rest
        case isTrue =>
          -- The backslash is that of the character behind it, which is no star.
          have apart : ¬ ['\\', '*'] <+: '\\' :: c :: escape rest := by
            intro starts
            have second : ['*'] <+: c :: escape rest := (List.cons_prefix_cons.mp starts).2
            exact star (List.cons_prefix_cons.mp second).1.symm
          calc Text.replace ['\\', '*'] anyText ('\\' :: c :: escape rest)
            _ = '\\' :: Text.replace ['\\', '*'] anyText (c :: escape rest) :=
                Text.replace_cons apart
            _ = '\\' :: c :: Text.replace ['\\', '*'] anyText (escape rest) := by
                rw [replace_cons_escape]

/-- The body of the expression, character by character. -/
theorem wildcardPattern_eq (value : List Char) :
    wildcardPattern value =
      ['/', '\\', 'A'] ++ value.flatMap patternChar ++ ['\\', 'z', '/'] := by
  have stars (c : Char) :
      (if c = '*' then anyText else if isPatternChar c then ['\\', c] else [c]).flatMap
        (fun c => if c = '%' then anyText else [c]) = patternChar c := by
    by_cases star : c = '*'
    · rw [star]
      rfl
    by_cases percent : c = '%'
    · rw [percent]
      rfl
    have plain : ¬ isWildcard c = true := by simp [isWildcard, star, percent]
    rw [if_neg star, patternChar, if_neg plain]
    split <;> simp [percent]
  unfold wildcardPattern
  dsimp only
  rw [replace_escape, Text.replace_singleton, List.flatMap_assoc]
  simp only [stars]

end Passes

/-- What a regular expression asks for next: any text, or one character. -/
inductive PatternPart where
  | anyText
  | char (c : Char)
deriving DecidableEq, Repr

/-- Reads a regular expression of escaped characters, plain characters and places for any text; there
is none with another meaning in it. -/
def readPattern? : List Char → Option (List PatternPart)
  | [] => some []
  | '\\' :: c :: rest =>
    if isPatternChar c then (readPattern? rest).map (.char c :: ·) else none
  | '.' :: '*' :: rest => (readPattern? rest).map (.anyText :: ·)
  | c :: rest => if isPatternChar c then none else (readPattern? rest).map (.char c :: ·)

/-- A whole text is what the parts of a regular expression ask for, one after the other. -/
def matchesWhole : List PatternPart → List Char → Bool
  | [], text => text.isEmpty
  | .anyText :: parts, text => text.tails.any (matchesWhole parts)
  | .char c :: parts, text => text.head? == some c && matchesWhole parts text.tail

/-- A value with the wildcard in every place replaced by the text chosen for that place. -/
def filledIn (chosen : Nat → List Char) (value : List Char) : List Char :=
  (value.mapIdx fun place c => if isWildcard c then chosen place else [c]).flatten

/-- What a character of a value asks for. -/
def patternPart (c : Char) : PatternPart := if isWildcard c then .anyText else .char c

theorem readPattern?_append (c : Char) (rest : List Char) :
    readPattern? (patternChar c ++ rest) = (readPattern? rest).map (patternPart c :: ·) := by
  unfold patternChar patternPart
  by_cases wild : isWildcard c = true
  · rw [if_pos wild, if_pos wild]
    rfl
  rw [if_neg wild, if_neg wild]
  by_cases special : isPatternChar c = true
  · rw [if_pos special]
    simp only [List.cons_append, List.nil_append, readPattern?, special, ↓reduceIte]
  · rw [if_neg special, List.singleton_append, readPattern?.eq_def]
    split
    case h_1 same => cases same
    case h_2 same =>
      cases same
      exact absurd rfl special
    case h_3 same =>
      cases same
      exact absurd rfl special
    case h_4 same =>
      cases same
      rw [if_neg special]

/-- The body of the expression is read as one part for each character of the value. -/
theorem readPattern?_flatMap (value : List Char) :
    readPattern? (value.flatMap patternChar) = some (value.map patternPart) := by
  induction value with
  | nil => rfl
  | cons c rest ih => rw [List.flatMap_cons, readPattern?_append, ih, Option.map_some, List.map_cons]

theorem filledIn_cons (chosen : Nat → List Char) (c : Char) (rest : List Char) :
    filledIn chosen (c :: rest) =
      (if isWildcard c then chosen 0 else [c]) ++ filledIn (fun place => chosen (place + 1)) rest := by
  rw [filledIn, List.mapIdx_cons, List.flatten_cons]
  rfl

/-- The parts of a value match the texts that it becomes when its wildcards are filled in. -/
theorem matchesWhole_iff (value text : List Char) :
    matchesWhole (value.map patternPart) text = true ↔ ∃ chosen, filledIn chosen value = text := by
  induction value generalizing text with
  | nil =>
      rw [List.map_nil, matchesWhole, List.isEmpty_iff]
      constructor
      · intro empty
        exact ⟨fun _ => [], empty.symm⟩
      · rintro ⟨chosen, rfl⟩
        rfl
  | cons c rest ih =>
      rw [List.map_cons, patternPart]
      simp only [filledIn_cons]
      by_cases wild : isWildcard c = true
      · simp only [wild, ↓reduceIte, matchesWhole, List.any_eq_true, List.mem_tails, ih]
        constructor
        · rintro ⟨later, ⟨run, whole⟩, chosen, filled⟩
          refine ⟨fun place => if place = 0 then run else chosen (place - 1), ?_⟩
          simp only [↓reduceIte, Nat.add_one_ne_zero, Nat.add_one_sub_one]
          rw [filled, whole]
        · rintro ⟨chosen, filled⟩
          exact ⟨_, ⟨chosen 0, filled⟩, _, rfl⟩
      · have plain : isWildcard c = false := by simpa using wild
        simp only [plain, Bool.false_eq_true, ↓reduceIte, matchesWhole, Bool.and_eq_true, beq_iff_eq,
          ih, List.singleton_append]
        constructor
        · rintro ⟨first, chosen, filled⟩
          refine ⟨fun place => chosen (place - 1), ?_⟩
          simp only [Nat.add_one_sub_one]
          rw [filled]
          exact List.cons_head?_tail first
        · rintro ⟨chosen, rfl⟩
          exact ⟨rfl, _, rfl⟩

/-- The regular expression of a value is made of its characters one by one, and matches exactly the
texts that the value becomes when each of its wildcards is replaced by some text. -/
theorem wildcardPattern_exact (value : List Char) :
    wildcardPattern value =
      ['/', '\\', 'A'] ++ value.flatMap patternChar ++ ['\\', 'z', '/'] ∧
    ∃ parts, readPattern? (value.flatMap patternChar) = some parts ∧
      ∀ text, matchesWhole parts text = true ↔ ∃ chosen, filledIn chosen value = text :=
  ⟨wildcardPattern_eq value, value.map patternPart, readPattern?_flatMap value,
    matchesWhole_iff value⟩

/-- A backslash before a star stays a backslash before any text. -/
example : wildcardPattern ['a', '\\', '*', '.', '%'] =
    ['/', '\\', 'A', 'a', '\\', '\\', '.', '*', '\\', '.', '.', '*', '\\', 'z', '/'] := by
  decide

end ResourceRouter.Filter
