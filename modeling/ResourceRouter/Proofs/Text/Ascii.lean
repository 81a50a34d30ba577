import Mathlib.Data.List.Basic
import ResourceRouter.Text.Mark
import ResourceRouter.Text.NormalForm

set_option autoImplicit false

/-!
ASCII characters in texts of all scripts: they are no marks, and a text of ASCII characters is in
its normal form.
-/

namespace ResourceRouter.Text

theorem ne_of_test {test : Char → Bool} {c other : Char} (holds : test c = true)
    (fails : test other = false) : c ≠ other := by
  rintro rfl
  rw [fails] at holds
  cases holds

section Tables

/-- The table of a text, from the characters of the text. -/
def Table.ofChars (text : List Char) : Table :=
  ((text.splitOnP fun c => c == ' ' || c == '\n').filter (!·.isEmpty)).map TableEntry.ofWord

theorem Table.ofText_ofList (text : List Char) :
    Table.ofText (String.ofList text) = Table.ofChars text := by
  rw [Table.ofText, String.toList_ofList]
  rfl

/-- No entry of the table is about an ASCII character. -/
def Table.isBeyondAscii (table : Table) : Bool := table.all fun entry => 0x80 ≤ entry.first

theorem Table.contains_ascii {table : Table} (beyond : table.isBeyondAscii = true) {c : Char}
    (ascii : c.toNat < 0x80) : table.contains c = false := by
  apply List.any_eq_false.mpr
  intro entry listed
  have first : 0x80 ≤ entry.first := by
    simpa using List.all_eq_true.mp beyond entry listed
  have before : ¬ entry.first ≤ c.toNat := by omega
  simp [TableEntry.covers, before]

set_option maxRecDepth 100000

-- The kernel reads the characters of a long text one by one only if it is given as a list.
theorem isBeyondAscii_nonspacingMarks : nonspacingMarks.isBeyondAscii = true :=
  (congrArg Table.isBeyondAscii (Table.ofText_ofList _)).trans (by decide +kernel)

theorem isBeyondAscii_spacingMarks : spacingMarks.isBeyondAscii = true :=
  (congrArg Table.isBeyondAscii (Table.ofText_ofList _)).trans (by decide +kernel)

theorem isMark_ascii {c : Char} (ascii : c.toNat < 0x80) : isMark c = false := by
  rw [isMark, isNonspacingMark, Table.contains_ascii isBeyondAscii_nonspacingMarks ascii,
    Table.contains_ascii isBeyondAscii_spacingMarks ascii]
  rfl

end Tables

section NormalForm

variable {c : Char} (ascii : c.toNat < 0x80)
include ascii

theorem decomposition_ascii : decomposition c = [c] := by
  have simple : c.toNat < 0xC0 := by omega
  simp only [decomposition, simple, ↓reduceIte]

theorem combiningClass_ascii : combiningClass c = 0 := by
  have simple : c.toNat < 0x300 := by omega
  simp only [combiningClass, simple, ↓reduceIte]

theorem composite?_ascii (first : Char) : composite? first c = none := by
  have noVowel : ¬ 0x1161 ≤ c.toNat := by omega
  have noTrailing : ¬ 0x11A7 < c.toNat := by omega
  have apart : syllable? first c = none := by
    simp [syllable?, noVowel, noTrailing]
  have simple : c.toNat < 0x300 := by omega
  simp only [composite?, apart, simple, ↓reduceIte]

/-- An ASCII character composes with nothing: it starts anew after the text so far. -/
theorem step_ascii (state : Composing) : state.step (c, 0) = ⟨state.reversed, some c, []⟩ := by
  have alone : (state.starter.bind fun starter => composite? starter c) = none := by
    apply Option.bind_eq_none_iff.mpr
    intro starter _
    exact composite?_ascii ascii starter
  simp only [Composing.step, alone, ite_self, ↓reduceIte]

omit ascii

theorem foldl_placeMark_unmarked (text : List Char) (placed : List Classed) :
    (text.map (·, 0)).foldl (fun placed c => placeMark c placed) placed =
      (text.map (·, 0)).reverse ++ placed := by
  induction text generalizing placed with
  | nil => rfl
  | cons c rest ih =>
      have onTop : placeMark (c, 0) placed = (c, 0) :: placed := by
        cases placed <;> simp [placeMark]
      rw [List.map_cons, List.foldl_cons, onTop, ih, List.reverse_cons, List.append_assoc]
      rfl

variable {text : List Char} (allAscii : ∀ c ∈ text, c.toNat < 0x80)
include allAscii

theorem decomposed_ascii : decomposed text = text.map (·, 0) := by
  have simple : text.flatMap decomposition = text := by
    calc text.flatMap decomposition = text.flatMap ([·]) :=
          List.flatMap_congr fun c inside => decomposition_ascii (allAscii c inside)
      _ = text := List.flatMap_singleton' text
  have classed : text.map (fun c => (c, combiningClass c)) = text.map (·, 0) := by
    apply List.map_congr_left
    intro c inside
    rw [combiningClass_ascii (allAscii c inside)]
  rw [decomposed, simple, classed, foldl_placeMark_unmarked, List.append_nil, List.reverse_reverse]

theorem reversed_foldl_step_ascii (state : Composing) :
    ((text.map (·, 0)).foldl Composing.step state).reversed = text.reverse ++ state.reversed := by
  induction text generalizing state with
  | nil => rfl
  | cons c rest ih =>
      have later := ih fun x inside => allAscii x (List.mem_cons_of_mem c inside)
      rw [List.map_cons, List.foldl_cons, step_ascii (allAscii c List.mem_cons_self), later,
        List.reverse_cons, List.append_assoc]
      rfl

theorem normalForm_ascii : normalForm text = text := by
  rw [normalForm, decomposed_ascii allAscii, reversed_foldl_step_ascii allAscii]
  simp [Composing.reversed]

end NormalForm

end ResourceRouter.Text
