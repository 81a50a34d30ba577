import ResourceRouter.Text.CombiningClass
import ResourceRouter.Text.Composite

set_option autoImplicit false

/-!
The composed normal form of a text (NFC). Texts that look the same, however their letters and marks
are combined, have one normal form.
-/

namespace ResourceRouter.Text

/-- A character and its combining class. -/
abbrev Classed := Char × Nat

/-- Adds a character to a text in reverse: a mark goes before the marks of a higher class. -/
def placeMark (c : Classed) : List Classed → List Classed
  | [] => [c]
  | last :: before =>
    if c.2 != 0 && c.2 < last.2 then last :: placeMark c before else c :: last :: before

/-- The simple characters of a text, the marks of a letter ordered by their classes. -/
def decomposed (text : List Char) : List Classed :=
  let simple := (text.flatMap decomposition).map fun c => (c, combiningClass c)
  (simple.foldl (fun placed c => placeMark c placed) []).reverse

/-- A composition in progress. -/
structure Composing where
  /-- The finished text in reverse. -/
  finished : List Char
  /-- The last character of class zero, which the next ones may compose with. -/
  starter : Option Char
  /-- The marks after it that stay, in reverse. -/
  marks : List Classed
deriving DecidableEq, Repr

/-- All characters of a composition, in reverse. -/
def Composing.reversed (state : Composing) : List Char :=
  state.marks.map Prod.fst ++ (state.starter.toList ++ state.finished)

/-- A character does not reach the starter past a mark of its own or a higher class. -/
def Composing.isBlocked (state : Composing) (combining : Nat) : Bool :=
  state.marks.head?.any fun mark => combining ≤ mark.2

/-- Takes the next character: it composes with the starter, stays a mark or starts anew. -/
def Composing.step (state : Composing) (c : Classed) : Composing :=
  let composed :=
    if state.isBlocked c.2 then none else state.starter.bind fun starter => composite? starter c.1
  match composed with
  | some whole => { state with starter := some whole }
  | none =>
    if c.2 = 0 then ⟨state.reversed, some c.1, []⟩ else { state with marks := c :: state.marks }

/-- The composed normal form of a text. -/
def normalForm (text : List Char) : List Char :=
  ((decomposed text).foldl Composing.step ⟨[], none, []⟩).reversed.reverse

end ResourceRouter.Text
