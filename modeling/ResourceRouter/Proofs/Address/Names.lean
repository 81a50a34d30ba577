import Mathlib
import ResourceRouter.Proofs.Address.Spelled
import ResourceRouter.Proofs.Text.Ascii
import ResourceRouter.Url.Path

set_option autoImplicit false

/-!
Plain names, and the paths that are written with them: no character of such a path is a blank, ends
the path or is encoded in an absolute URL.
-/

namespace ResourceRouter.Locator

/-- A character of a plain name. -/
def isNameChar (c : Char) : Bool := c.isAlphanum || c == '_' || c == '-' || c == '.'

/-- A character of a path of plain names. -/
def isPathChar (c : Char) : Bool := isNameChar c || isSlash c

/-- A segment of letters, digits and the marks of names. -/
def IsName (segment : String) : Prop :=
  segment ≠ "" ∧ ∀ c ∈ segment.toList, isNameChar c = true

instance : DecidablePred IsName := fun segment =>
  decidable_of_iff (segment ≠ "" ∧ segment.toList.all isNameChar = true) (by simp [IsName])

section Characters

variable {c : Char} (written : isPathChar c = true)
include written

theorem visible_of_isPathChar : 0x20 < c.toNat ∧ c.toNat < 0x7F := by
  simp only [isPathChar, isNameChar, isSlash, Char.isAlphanum, Char.isAlpha, Char.isUpper,
    Char.isLower, Bool.or_eq_true, Bool.and_eq_true, decide_eq_true_eq, beq_iff_eq,
    Char.isDigit_iff_toNat, UInt32.le_iff_toNat_le, ge_iff_le] at written
  rcases written with ((((((upper | lower) | digit) | rfl) | rfl) | rfl) | rfl)
  · change 65 ≤ c.toNat ∧ c.toNat ≤ 90 at upper
    omega
  · change 97 ≤ c.toNat ∧ c.toNat ≤ 122 at lower
    omega
  · change 48 ≤ c.toNat ∧ c.toNat ≤ 57 at digit
    omega
  all_goals decide

theorem isBlank_of_isPathChar : Text.isBlank c = false := by
  have visible := visible_of_isPathChar written
  exact Text.isBlank_of_visible visible.1 visible.2

theorem ne_query_of_isPathChar : c ≠ '?' ∧ c ≠ '#' :=
  ⟨Text.ne_of_test written (by decide), Text.ne_of_test written (by decide)⟩

theorem isEncodedInPath_of_isPathChar : Url.isEncodedInPath c = false := by
  have bounds := visible_of_isPathChar written
  have noControl : ¬ c.toNat < 0x20 := by omega
  have narrow : ¬ c.toNat ≥ 0x7F := by omega
  have unused (other : Char) (outside : isPathChar other = false) : c ≠ other :=
    Text.ne_of_test written outside
  simp [Url.isEncodedInPath, Url.isControlOrWide, noControl, narrow, unused ' ' (by decide),
    unused '"' (by decide), unused '#' (by decide), unused '<' (by decide), unused '>' (by decide),
    unused '?' (by decide), unused '\x60' (by decide), unused '\x7b' (by decide),
    unused '\x7d' (by decide)]

end Characters

/-- The text of segments with slashes between them. -/
def joined (segments : List String) : List Char := ['/'].intercalate (segments.map String.toList)

theorem IsName.isPlainSegment {segment : String} (name : IsName segment) :
    IsPlainSegment segment := by
  refine ⟨name.1, fun c inside => ?_⟩
  have named := name.2 c inside
  exact ⟨Text.ne_of_test named (by decide), Text.ne_of_test named (by decide),
    Text.ne_of_test named (by decide)⟩

theorem IsName.toList_ne_nil {segment : String} (name : IsName segment) : segment.toList ≠ [] :=
  fun empty => name.1 (String.toList_eq_nil_iff.mp empty)

theorem slash_joined {segments : List String} (given : segments ≠ []) :
    '/' :: joined segments = path (segments.map String.toList) := by
  induction segments with
  | nil => exact absurd rfl given
  | cons first rest ih =>
      cases rest with
      | nil => simp [joined]
      | cons second others =>
          have later := ih (List.cons_ne_nil second others)
          have split : joined (first :: second :: others) =
              first.toList ++ '/' :: joined (second :: others) := by
            simp [joined, List.intercalate_cons_cons]
          rw [split, later]
          rfl

theorem joined_append {root : List String} (given : root ≠ []) (segments : List String) :
    joined (root ++ segments) = joined root ++ path (segments.map String.toList) := by
  have all : root ++ segments ≠ [] := by simp [given]
  have both := slash_joined all
  rw [List.map_append, path_append, ← slash_joined given, List.cons_append] at both
  exact List.tail_eq_of_cons_eq both

section Joined

variable {segments : List String} (names : ∀ segment ∈ segments, IsName segment)
include names

theorem mem_joined {c : Char} (inside : c ∈ joined segments) : isPathChar c = true := by
  by_cases given : segments = []
  · rw [given] at inside
    cases inside
  · have inPath : c ∈ path (segments.map String.toList) := by
      rw [← slash_joined given]
      exact List.mem_cons_of_mem '/' inside
    obtain ⟨text, listed, written⟩ := List.mem_flatMap.mp inPath
    obtain ⟨segment, isGiven, rfl⟩ := List.mem_map.mp listed
    rcases List.mem_cons.mp written with rfl | inSegment
    · rfl
    · simp [isPathChar, (names segment isGiven).2 c inSegment]

theorem joined_ne_nil (given : segments ≠ []) : joined segments ≠ [] := by
  intro empty
  have split := slash_joined given
  cases segments with
  | nil => exact given rfl
  | cons first rest =>
      have name := names first List.mem_cons_self
      rw [empty, List.map_cons, path_cons] at split
      have nothing := List.append_eq_nil_iff.mp (List.tail_eq_of_cons_eq split).symm
      exact name.toList_ne_nil nothing.1

theorem head?_joined : ∀ c ∈ (joined segments).head?, isSlash c = false := by
  intro c opens
  cases segments with
  | nil => cases opens
  | cons first rest =>
      have name := names first List.mem_cons_self
      have split : '/' :: joined (first :: rest) =
          '/' :: (first.toList ++ path (rest.map String.toList)) :=
        slash_joined (List.cons_ne_nil first rest)
      rw [List.tail_eq_of_cons_eq split, List.head?_append_of_ne_nil _ name.toList_ne_nil] at opens
      have inFirst : c ∈ first.toList := List.mem_of_head? opens
      have noSlash : c ≠ '/' := Text.ne_of_test (name.2 c inFirst) (by decide)
      simpa [isSlash] using noSlash

theorem getLast?_joined : ∀ c ∈ (joined segments).getLast?, isSlash c = false := by
  intro c ends
  rcases List.eq_nil_or_concat' segments with rfl | ⟨first, last, rfl⟩
  · cases ends
  · have name := names last (by simp)
    have atEnd : c ∈ ('/' :: joined (first ++ [last])).getLast? := by
      rw [List.getLast?_cons, Option.mem_def.mp ends]
      rfl
    have split : path ((first ++ [last]).map String.toList) =
        path (first.map String.toList) ++ '/' :: last.toList := by
      simp
    rw [slash_joined (by simp), split, List.getLast?_append_of_ne_nil _ (by simp),
      List.getLast?_cons_of_ne_nil name.toList_ne_nil] at atEnd
    have noSlash : c ≠ '/' := Text.ne_of_test (name.2 c (List.mem_of_getLast? atEnd)) (by decide)
    simpa [isSlash] using noSlash

end Joined

end ResourceRouter.Locator
