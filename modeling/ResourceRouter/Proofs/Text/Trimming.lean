import Mathlib.Data.List.DropRight
import ResourceRouter.Text.Blank

set_option autoImplicit false

/-!
What cutting a text keeps: one whose first and last characters stay is not changed by trimming, a
trailing part is trimmed on its own, and a run of characters ends where the part after it starts,
at the first separator among others.
-/

namespace ResourceRouter.Text

section DropTrailing

variable {α : Type} {test : α → Bool}

theorem dropTrailing_eq_rdropWhile (text : List α) : dropTrailing test text = text.rdropWhile test :=
  rfl

@[simp] theorem dropTrailing_nil : dropTrailing test [] = [] := rfl

theorem dropTrailing_eq_self_iff {text : List α} :
    dropTrailing test text = text ↔ ∀ last ∈ text.getLast?, test last = false := by
  rw [dropTrailing_eq_rdropWhile, List.rdropWhile_eq_self_iff]
  constructor
  · intro kept last ends
    obtain ⟨nonempty, rfl⟩ := List.mem_getLast?_eq_getLast ends
    simpa using kept nonempty
  · intro kept nonempty
    simpa using kept _ (List.getLast?_eq_some_getLast nonempty)

theorem dropTrailing_append {first : List α} (kept : dropTrailing test first = first)
    (second : List α) : dropTrailing test (first ++ second) = first ++ dropTrailing test second := by
  rw [dropTrailing, List.reverse_append, List.dropWhile_append]
  split
  · rename_i gone
    have nothing : dropTrailing test second = [] := by
      rw [dropTrailing, List.isEmpty_iff.mp gone, List.reverse_nil]
    rw [nothing, List.append_nil]
    exact kept
  · rw [List.reverse_append, List.reverse_reverse]
    rfl

/-- What stands before a member that stays is kept whole. -/
theorem dropTrailing_append_cons {c : α} (kept : test c = false) (first second : List α) :
    dropTrailing test (first ++ c :: second) = first ++ c :: dropTrailing test second := by
  have whole : dropTrailing test (first ++ [c]) = first ++ [c] := by
    apply dropTrailing_eq_self_iff.mpr
    intro last ends
    rw [List.getLast?_concat, Option.mem_some] at ends
    rw [← ends]
    exact kept
  rw [List.append_cons, dropTrailing_append whole, ← List.append_cons]

theorem dropTrailing_cons {c : α} (kept : test c = false) (rest : List α) :
    dropTrailing test (c :: rest) = c :: dropTrailing test rest :=
  dropTrailing_append_cons kept [] rest

theorem dropTrailing_prefix (text : List α) : dropTrailing test text <+: text :=
  List.rdropWhile_prefix test text

theorem getLast?_dropTrailing (text : List α) :
    ∀ last ∈ (dropTrailing test text).getLast?, test last = false := by
  apply dropTrailing_eq_self_iff.mp
  exact List.rdropWhile_idempotent test text

theorem dropTrailing_append_run {run : List α} (goes : ∀ c ∈ run, test c = true) (text : List α) :
    dropTrailing test (text ++ run) = dropTrailing test text := by
  have solid : ∀ c ∈ run.reverse, test c = true := by simpa using goes
  rw [dropTrailing, List.reverse_append, List.dropWhile_append_of_pos solid]
  rfl

/-- What is cut from a part may as well be cut from the whole. -/
theorem dropTrailing_append_dropTrailing (first second : List α) :
    dropTrailing test (first ++ dropTrailing test second) = dropTrailing test (first ++ second) := by
  have parts : dropTrailing test second ++ second.rtakeWhile test = second :=
    List.rdropWhile_append_rtakeWhile
  have goes : ∀ c ∈ second.rtakeWhile test, test c = true := fun c => List.mem_rtakeWhile_imp
  rw [← dropTrailing_append_run goes (first ++ dropTrailing test second), List.append_assoc, parts]

/-- A first character that stays keeps the text in front of it from being trimmed. -/
theorem head?_dropTrailing {text : List α} (kept : ∀ first ∈ text.head?, test first = false) :
    (dropTrailing test text).head? = text.head? := by
  cases text with
  | nil => rfl
  | cons c rest => rw [dropTrailing_cons (kept c rfl)]; rfl

/-- A part whose characters all stay is not changed by trimming on both sides, and what follows it
loses no more than its end. -/
theorem dropTrailing_dropWhile_append {first second : List α}
    (solid : ∀ c ∈ first, test c = false) (kept : ∀ c ∈ second.head?, test c = false) :
    dropTrailing test ((first ++ second).dropWhile test) = first ++ dropTrailing test second := by
  have starts : (first ++ second).dropWhile test = first ++ second := by
    cases first with
    | nil =>
        cases second with
        | nil => rfl
        | cons c rest => simp [kept c rfl]
    | cons c rest => simp [solid c List.mem_cons_self]
  rw [starts]
  apply dropTrailing_append
  apply dropTrailing_eq_self_iff.mpr
  intro last ends
  exact solid last (List.mem_of_getLast? ends)

end DropTrailing

section Runs

variable {α : Type} {test : α → Bool} {first second : List α}
  (run : ∀ c ∈ first, test c = true) (stops : ∀ c ∈ second.head?, test c = false)
include run stops

theorem takeWhile_append_eq : (first ++ second).takeWhile test = first := by
  rw [List.takeWhile_append_of_pos run]
  cases second with
  | nil => simp
  | cons c rest => simp [stops c rfl]

theorem dropWhile_append_eq : (first ++ second).dropWhile test = second := by
  rw [List.dropWhile_append_of_pos run]
  cases second with
  | nil => rfl
  | cons c rest => simp [stops c rfl]

end Runs

section Separator

variable {separator : Char}

theorem bne_of_notMem {text : List Char} (absent : separator ∉ text) :
    ∀ c ∈ text, (c != separator) = true := by
  intro c inside
  exact bne_iff_ne.mpr (ne_of_mem_of_not_mem inside absent)

variable {before after : List Char} (absent : separator ∉ before)
  (starts : ∀ c ∈ after.head?, c = separator)
include absent starts

theorem takeWhile_bne_append : (before ++ after).takeWhile (· != separator) = before :=
  takeWhile_append_eq (bne_of_notMem absent) fun c first => by simp [starts c first]

theorem dropWhile_bne_append : (before ++ after).dropWhile (· != separator) = after :=
  dropWhile_append_eq (bne_of_notMem absent) fun c first => by simp [starts c first]

end Separator

theorem isBlank_of_visible {c : Char} (visible : 0x20 < c.toNat) (ascii : c.toNat < 0x7F) :
    isBlank c = false := by
  simp only [isBlank, Bool.or_eq_false_iff, Bool.and_eq_false_iff, decide_eq_false_iff_not,
    beq_eq_false_iff_ne]
  omega

theorem notMem_of_blank {c : Char} {signs : List Char} (blank : isBlank c = true)
    (solid : signs.any isBlank = false) : c ∉ signs := by
  intro inside
  have among : signs.any isBlank = true := List.any_eq_true.mpr ⟨c, inside, blank⟩
  rw [solid] at among
  cases among

section Trim

variable {first : List Char} (solid : ∀ c ∈ first, isBlank c = false)
include solid

theorem trim_append {second : List Char} (kept : ∀ c ∈ second.head?, isBlank c = false) :
    trim (first ++ second) = first ++ dropTrailing isBlank second :=
  dropTrailing_dropWhile_append solid kept

theorem trim_eq_self : trim first = first := by
  have kept : trim (first ++ []) = first ++ dropTrailing isBlank [] := trim_append solid (by simp)
  rwa [dropTrailing_nil, List.append_nil] at kept

end Trim

/-- Around a character that stays, only the outer sides are trimmed. -/
theorem trim_append_cons {c : Char} (solid : isBlank c = false) (first second : List Char) :
    trim (first ++ c :: second) = trimStart first ++ c :: dropTrailing isBlank second := by
  have starts : trimStart (first ++ c :: second) = trimStart first ++ c :: second := by
    rw [trimStart, List.dropWhile_append, trimStart]
    split
    · next gone =>
        rw [List.isEmpty_iff.mp gone, List.dropWhile_cons_of_neg (by simp [solid])]
        rfl
    · rfl
  rw [trim, starts, dropTrailing_append_cons solid]

theorem trim_trimStart (text : List Char) : trim (trimStart text) = trim text := by
  rw [trim, trim, trimStart, trimStart, List.dropWhile_idempotent]

theorem trim_dropTrailing (text : List Char) : trim (dropTrailing isBlank text) = trim text := by
  by_cases blank : ∀ c ∈ text, isBlank c = true
  · have nothing : dropTrailing isBlank text = [] := List.rdropWhile_eq_nil_iff.mpr blank
    have dropped : trimStart text = [] := List.dropWhile_eq_nil_iff.mpr blank
    rw [nothing, trim, trim, dropped]
    rfl
  · push Not at blank
    obtain ⟨c, inside, notBlank⟩ := blank
    have solid : isBlank c = false := by simpa using notBlank
    obtain ⟨first, second, rfl⟩ := List.append_of_mem inside
    have again : dropTrailing isBlank (dropTrailing isBlank second) = dropTrailing isBlank second :=
      List.rdropWhile_idempotent _ _
    rw [dropTrailing_append_cons solid, trim_append_cons solid, trim_append_cons solid, again]

theorem trim_trim (text : List Char) : trim (trim text) = trim text :=
  calc trim (trim text)
    _ = trim (trimStart text) := trim_dropTrailing (trimStart text)
    _ = trim text := trim_trimStart text

theorem trimStart_of_head {text : List Char} (first : ∀ c ∈ text.head?, isBlank c = false) :
    trimStart text = text := by
  cases text with
  | nil => rfl
  | cons c rest => exact List.dropWhile_cons_of_neg (by simp [first c rfl])

/-- A text that neither starts nor ends in a blank is not changed. -/
theorem trim_of_ends {text : List Char} (first : ∀ c ∈ text.head?, isBlank c = false)
    (last : ∀ c ∈ text.getLast?, isBlank c = false) : trim text = text := by
  rw [trim, trimStart_of_head first]
  exact dropTrailing_eq_self_iff.mpr last

theorem head?_trim (text : List Char) : ∀ c ∈ (trim text).head?, isBlank c = false := by
  have starts : ∀ c ∈ (trimStart text).head?, isBlank c = false := by
    intro c first
    have stops := List.head?_dropWhile_not isBlank text
    rw [trimStart] at first
    rw [Option.mem_def.mp first] at stops
    simpa using stops
  rw [trim, head?_dropTrailing starts]
  exact starts

theorem trim_append_blanks {gap : List Char} (blank : ∀ c ∈ gap, isBlank c = true)
    (text : List Char) : trim (text ++ gap) = trim text := by
  rw [← trim_dropTrailing (text ++ gap), dropTrailing_append_run blank, trim_dropTrailing]

section Blanks

variable {gap : List Char} (blank : ∀ c ∈ gap, isBlank c = true)
include blank

theorem trimStart_blanks_append (text : List Char) : trimStart (gap ++ text) = trimStart text :=
  List.dropWhile_append_of_pos blank

theorem trim_blanks_append (text : List Char) : trim (gap ++ text) = trim text := by
  rw [trim, trimStart_blanks_append blank, ← trim]

end Blanks

/-- Trimming does not reach past a text without blanks. -/
theorem trim_around {inner : List Char} (present : inner ≠ [])
    (solid : ∀ c ∈ inner, isBlank c = false) (first second : List Char) :
    trim (first ++ (inner ++ second)) =
      trimStart first ++ (inner ++ dropTrailing isBlank second) := by
  cases inner with
  | nil => exact absurd rfl present
  | cons c inner =>
      have kept : dropTrailing isBlank inner = inner := by
        apply dropTrailing_eq_self_iff.mpr
        exact fun last ends => solid last (.tail c (List.mem_of_getLast? ends))
      rw [List.cons_append, trim_append_cons (solid c List.mem_cons_self), dropTrailing_append kept]
      rfl

theorem trim_infix (text : List Char) : trim text <:+: text := by
  have front : trim text <+: trimStart text := dropTrailing_prefix (trimStart text)
  have back : trimStart text <:+ text := List.dropWhile_suffix isBlank
  exact front.isInfix.trans back.isInfix

/-- The text ends in a blank. -/
def endsInBlank (text : List Char) : Bool := text.getLast?.any isBlank

theorem endsInBlank_eq_false_iff {text : List Char} :
    endsInBlank text = false ↔ dropTrailing isBlank text = text := by
  rw [dropTrailing_eq_self_iff, endsInBlank]
  cases text.getLast? <;> simp

end ResourceRouter.Text
