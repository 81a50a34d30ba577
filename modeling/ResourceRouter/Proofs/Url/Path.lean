import ResourceRouter.Proofs.Text.Splitting
import ResourceRouter.Proofs.Text.Trimming
import ResourceRouter.Url.Path

set_option autoImplicit false

/-!
Paths that absolute URLs keep as they are: no character of them is encoded, and no segment is made
of dots.
-/

namespace ResourceRouter.Url

theorem percentEncode_eq_self {test : Char → Bool} {text : List Char}
    (kept : ∀ c ∈ text, test c = false) : Text.percentEncode test text = text := by
  have single : ∀ c ∈ text, (if test c then Text.percentChar c else [c]) = [c] := by
    intro c inside
    rw [kept c inside]
    rfl
  rw [Text.percentEncode, List.flatMap_congr single]
  exact List.flatMap_singleton' text

section Dots

variable {segment : List Char} (literal : '%' ∉ segment)
include literal

theorem dropDot?_eq {rest : List Char} (dotted : dropDot? segment = some rest) :
    segment = '.' :: rest := by
  unfold dropDot? at dotted
  split at dotted
  · rw [Option.some.inj dotted]
  · exact absurd List.mem_cons_self literal
  · exact absurd List.mem_cons_self literal
  · cases dotted

theorem isSingleDot_eq_false (solid : segment ≠ ['.']) : isSingleDot segment = false := by
  by_contra dotted
  apply solid
  exact dropDot?_eq literal (by simpa [isSingleDot] using dotted)

theorem isDoubleDot_eq_false (solid : segment ≠ ['.', '.']) : isDoubleDot segment = false := by
  by_contra dotted
  have dropped : (dropDot? segment).bind dropDot? = some [] := by
    simpa [isDoubleDot] using dotted
  obtain ⟨rest, first, second⟩ := Option.bind_eq_some_iff.mp dropped
  have opened := dropDot?_eq literal first
  have later : '%' ∉ rest := by
    intro inside
    rw [opened] at literal
    exact literal (List.mem_cons_of_mem _ inside)
  rw [dropDot?_eq later second] at opened
  exact solid opened

theorem addRaw_eq (plain : ∀ c ∈ segment, isEncodedInPath c = false)
    (single : segment ≠ ['.']) (double : segment ≠ ['.', '.']) (above : List (List Char)) :
    addRaw above segment = (above, some segment) := by
  simp only [addRaw, addSegment, percentEncode_eq_self plain, isDoubleDot_eq_false literal double,
    isSingleDot_eq_false literal single, Bool.false_eq_true, ↓reduceIte]

end Dots

/-- Segments that are all added as they are give the path they were cut from. -/
theorem joinSegments_addSegments
    {add : List (List Char) → List Char → List (List Char) × Option (List Char)}
    {raws : List (List Char)} (given : raws ≠ [])
    (kept : ∀ raw ∈ raws, ∀ above, add above raw = (above, some raw)) (above : List (List Char)) :
    joinSegments (addSegments add above raws).1 (addSegments add above raws).2 =
      '/' :: (above.reverse.flatMap (· ++ ['/']) ++ ['/'].intercalate raws) := by
  induction raws generalizing above with
  | nil => exact absurd rfl given
  | cons raw rest ih =>
      have first := kept raw List.mem_cons_self above
      cases rest with
      | nil => simp [addSegments, first, joinSegments, List.intercalate]
      | cons second others =>
          have taken : addSegments add above (raw :: second :: others) =
              addSegments add (raw :: above) (second :: others) := by
            simp [addSegments, first]
          have later := ih (List.cons_ne_nil second others)
            (fun other listed => kept other (List.mem_cons_of_mem raw listed)) (raw :: above)
          rw [taken, later, List.intercalate_cons_cons]
          simp

theorem hierarchicalPath_eq {text : List Char}
    (plain : ∀ c ∈ text, isEncodedInPath c = false ∧ c ≠ '%' ∧ c ≠ '\\')
    (resolved : ∀ segment ∈ text.splitOn '/', segment ≠ ['.'] ∧ segment ≠ ['.', '.'])
    (kind : SchemeKind) {suffix : List Char} (ends : ∀ c ∈ suffix.head?, endsPath c = true) :
    hierarchicalPath kind (text ++ suffix) = '/' :: text := by
  have within : ∀ c ∈ text, (!endsPath c) = true := by
    intro c inside
    have kept := (plain c inside).1
    simp only [isEncodedInPath, Bool.or_eq_false_iff] at kept
    simp [endsPath, kept]
  have cut : (text ++ suffix).takeWhile (!endsPath ·) = text :=
    Text.takeWhile_append_eq within fun c first => by simp [ends c first]
  have slashes : text.splitOnP kind.isSeparator = text.splitOn '/' := by
    apply Text.splitOnP_congr
    intro c inside
    simp [SchemeKind.isSeparator, (plain c inside).2.2]
  have kept : ∀ raw ∈ text.splitOn '/', ∀ above, addRaw above raw = (above, some raw) := by
    intro raw listed above
    have within := fun c inside => plain c (Text.mem_splitOn listed c inside).2
    have literal : '%' ∉ raw := fun inside => (within '%' inside).2.1 rfl
    obtain ⟨single, double⟩ := resolved raw listed
    exact addRaw_eq literal (fun c inside => (within c inside).1) single double above
  have joined := joinSegments_addSegments (List.splitOn_ne_nil '/' text) kept []
  rw [List.intercalate_splitOn] at joined
  rw [hierarchicalPath, rawSegments, cut, slashes]
  exact joined

end ResourceRouter.Url
