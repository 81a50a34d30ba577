import ResourceRouter.Address.Locator
import ResourceRouter.Proofs.Text.Splitting
import ResourceRouter.Proofs.Text.Trimming
import ResourceRouter.Proofs.Url.Relative

set_option autoImplicit false

/-!
Paths and their segments. Below its root, a path has exactly the non-empty texts between its slashes
as segments, whether it is written with its root or without.
-/

namespace ResourceRouter.Locator

/-- The path of the given segments: each follows a slash. -/
def path (segments : List (List Char)) : List Char := segments.flatMap ('/' :: ·)

@[simp] theorem path_nil : path [] = [] := rfl

@[simp] theorem path_cons (segment : List Char) (rest : List (List Char)) :
    path (segment :: rest) = '/' :: (segment ++ path rest) := rfl

@[simp] theorem path_append (first second : List (List Char)) :
    path (first ++ second) = path first ++ path second := List.flatMap_append

/-- The non-empty texts between slashes. -/
def pieces (text : List Char) : List (List Char) := (text.splitOn '/').filter (!·.isEmpty)

/-- A text that may stand alone between slashes. -/
def IsSegment (segment : List Char) : Prop := segment ≠ [] ∧ '/' ∉ segment

section Pieces

@[simp] theorem pieces_nil : pieces [] = [] := rfl

theorem pieces_append_slash (first second : List Char) :
    pieces (first ++ '/' :: second) = pieces first ++ pieces second := by
  rw [pieces, List.splitOn_append_cons_self, List.filter_append]
  rfl

@[simp] theorem pieces_slash (text : List Char) : pieces ('/' :: text) = pieces text :=
  pieces_append_slash [] text

theorem pieces_append {second : List Char} (opens : second.head?.all isSlash) (first : List Char) :
    pieces (first ++ second) = pieces first ++ pieces second := by
  cases second with
  | nil => simp
  | cons c rest =>
      obtain rfl : c = '/' := by simpa [isSlash] using opens
      rw [pieces_append_slash, pieces_slash]

theorem pieces_dropWhile (text : List Char) : pieces (text.dropWhile isSlash) = pieces text := by
  induction text with
  | nil => rfl
  | cons c rest ih =>
      by_cases slash : c = '/'
      · rw [slash, pieces_slash, ← ih]
        rfl
      · rw [List.dropWhile_cons_of_neg (by simpa [isSlash] using slash)]

theorem pieces_dropTrailing (text : List Char) :
    pieces (Text.dropTrailing isSlash text) = pieces text := by
  induction text using List.reverseRecOn with
  | nil => rfl
  | append_singleton rest c ih =>
      by_cases slash : c = '/'
      · rw [slash, pieces_append_slash, pieces_nil, List.append_nil, ← ih,
          Text.dropTrailing_eq_rdropWhile, List.rdropWhile_concat_pos _ _ _ rfl]
        rfl
      · rw [Text.dropTrailing_eq_rdropWhile,
          List.rdropWhile_concat_neg _ _ _ (by simpa [isSlash] using slash)]

theorem pieces_segment {segment : List Char} (valid : IsSegment segment) :
    pieces segment = [segment] := by
  rw [pieces, List.splitOn_eq_singleton valid.2]
  simp [valid.1]

theorem head?_path (segments : List (List Char)) : (path segments).head?.all isSlash := by
  cases segments <;> rfl

theorem pieces_path {segments : List (List Char)} (valid : ∀ s ∈ segments, IsSegment s) :
    pieces (path segments) = segments := by
  induction segments with
  | nil => rfl
  | cons segment rest ih =>
      have first := pieces_segment (valid segment List.mem_cons_self)
      have later := ih fun s listed => valid s (List.mem_cons_of_mem segment listed)
      rw [path_cons, pieces_slash, pieces_append (head?_path rest), first, later]
      rfl

theorem mem_pieces {text segment : List Char} (listed : segment ∈ pieces text) :
    IsSegment segment ∧ ∀ c ∈ segment, c ∈ text := by
  obtain ⟨part, nonempty⟩ := List.mem_filter.mp listed
  have within := Text.mem_splitOn part
  refine ⟨⟨by simpa using nonempty, fun slash => (within '/' slash).1 rfl⟩, ?_⟩
  intro c inside
  exact (within c inside).2

end Pieces

section Href

/-- A text that is no absolute URL is a path itself. -/
theorem pathOf_of_path?_eq_none {text : List Char} (relative : Url.path? text = none) :
    pathOf text = text := by
  simp [pathOf, relative]

theorem pathOf_of_slash {text : List Char} (opens : text.head?.all isSlash) : pathOf text = text := by
  apply pathOf_of_path?_eq_none
  cases text with
  | nil => rfl
  | cons c rest =>
      obtain rfl : c = '/' := by simpa [isSlash] using opens
      exact Url.path?_of_slash rest

variable {path : List Char} (plain : ∀ c ∈ path, c ≠ '?' ∧ c ≠ '#')
include plain

theorem withoutQuery_append {suffix : List Char}
    (ends : ∀ c ∈ suffix.head?, Url.endsPath c = true) : withoutQuery (path ++ suffix) = path := by
  apply Text.takeWhile_append_eq
  · intro c inside
    simpa using plain c inside
  · intro c opens
    have mark := ends c opens
    simp only [Url.endsPath, Bool.or_eq_true, beq_iff_eq] at mark
    rcases mark with rfl | rfl <;> rfl

theorem withoutQuery_eq : withoutQuery path = path := by
  have cut : withoutQuery (path ++ []) = path := withoutQuery_append plain (by simp)
  rwa [List.append_nil] at cut

end Href

/-- A root as locators hold it: the empty text, or a slash and a text without slashes at its
ends. -/
def IsRoot (root : List Char) : Prop :=
  root = [] ∨ ∃ name, root = '/' :: name ∧ name ≠ [] ∧
    (∀ c ∈ name.head?, isSlash c = false) ∧ ∀ c ∈ name.getLast?, isSlash c = false

theorem isRoot_normalizeRoot (root : List Char) : IsRoot (normalizeRoot root) := by
  rw [normalizeRoot]
  have starts : ∀ c ∈ ((Text.trim root).dropWhile isSlash).head?, isSlash c = false := by
    intro c first
    have solid := List.head?_dropWhile_not isSlash (Text.trim root)
    rw [Option.mem_def.mp first] at solid
    simpa using solid
  have sameHead := Text.head?_dropTrailing starts
  have ends : ∀ c ∈ (Text.dropTrailing isSlash ((Text.trim root).dropWhile isSlash)).getLast?,
      isSlash c = false := Text.getLast?_dropTrailing _
  generalize Text.dropTrailing isSlash ((Text.trim root).dropWhile isSlash) = name at sameHead ends ⊢
  by_cases empty : name = []
  · exact .inl (by rw [empty]; rfl)
  · refine .inr ⟨name, ?_, empty, ?_, ends⟩
    · apply Text.dropTrailing_eq_self_iff.mpr
      intro last final
      rw [List.getLast?_cons_of_ne_nil empty] at final
      exact ends last final
    · rw [sameHead]
      exact starts

/-- What is left of a path without the name of the root, which is cut off where it is the whole path
or a slash follows it. -/
def withoutName (name path : List Char) : List Char :=
  if path = name ∨ name ++ ['/'] <+: path then path.drop name.length else path

theorem withoutName_nil (path : List Char) : withoutName [] path = path := ite_self path

theorem withoutName_suffix (name path : List Char) : withoutName name path <:+ path := by
  rw [withoutName]
  split
  · exact List.drop_suffix name.length path
  · exact List.suffix_rfl

theorem withoutName_append (name : List Char) {rest : List Char} (opens : rest.head?.all isSlash) :
    withoutName name (name ++ rest) = rest := by
  have named : name ++ rest = name ∨ name ++ ['/'] <+: name ++ rest := by
    cases rest with
    | nil => exact .inl (List.append_nil name)
    | cons c rest =>
        obtain rfl : c = '/' := by simpa [isSlash] using opens
        exact .inr ⟨rest, by simp⟩
  rw [withoutName, if_pos named, List.drop_left]

theorem withoutName_eq_self {name path : List Char}
    (other : ∀ rest, path = name ++ rest → rest.head?.all isSlash = false) :
    withoutName name path = path := by
  apply if_neg
  rintro (same | ⟨rest, split⟩)
  · have refused := other [] (by rw [same, List.append_nil])
    cases refused
  · have refused := other ('/' :: rest) (by rw [← split, ← List.append_cons])
    cases refused

/-- A path has the name of the root in front of a slash or by itself, or it has not. -/
theorem under_or_not_under (root text : List Char) :
    (∃ rest, text.dropWhile isSlash = root.dropWhile isSlash ++ rest ∧
      rest.head?.all isSlash = true) ∨
    ∀ rest, text.dropWhile isSlash = root.dropWhile isSlash ++ rest →
      rest.head?.all isSlash = false := by
  by_cases under : ∃ rest, text.dropWhile isSlash = root.dropWhile isSlash ++ rest ∧
      rest.head?.all isSlash = true
  · exact .inl under
  · right
    intro rest split
    by_contra opens
    exact under ⟨rest, split, by simpa using opens⟩

namespace IsRoot

variable {root : List Char} (valid : IsRoot root)
include valid

theorem dropTrailing_eq : Text.dropTrailing isSlash root = root := by
  rcases valid with rfl | ⟨name, rfl, nonempty, -, ends⟩
  · rfl
  · apply Text.dropTrailing_eq_self_iff.mpr
    intro last final
    rw [List.getLast?_cons_of_ne_nil nonempty] at final
    exact ends last final

theorem eq_nil_or_eq_slash : root = [] ∨ root = '/' :: root.dropWhile isSlash := by
  rcases valid with rfl | ⟨name, rfl, -, starts, -⟩
  · exact .inl rfl
  · right
    have same : name.dropWhile isSlash = name := by
      cases name with
      | nil => rfl
      | cons c rest => exact List.dropWhile_cons_of_neg (by simp [starts c rfl])
    change '/' :: name = '/' :: name.dropWhile isSlash
    rw [same]

section Rooted

variable {text : List Char}

/-- A path that has the name of the root is the root and what follows the name. -/
theorem rooted_of_under {rest : List Char} (opens : rest.head?.all isSlash)
    (under : text.dropWhile isSlash = root.dropWhile isSlash ++ rest) :
    ∃ below, rooted root text = root ++ below ∧ pieces below = pieces rest := by
  have found : (root.dropWhile isSlash).isPrefixOf? (text.dropWhile isSlash) = some rest :=
    List.isPrefixOf?_eq_some_iff_append_eq.mpr under.symm
  have accepted : (some rest).any (fun rest => rest.isEmpty || rest.head? == some '/') = true := by
    cases rest with
    | nil => rfl
    | cons c rest => simpa [isSlash] using opens
  have full : rooted root text = '/' :: text.dropWhile isSlash := by
    simp only [rooted, found, accepted, ↓reduceIte]
  rcases valid.eq_nil_or_eq_slash with empty | named
  · refine ⟨'/' :: rest, ?_, pieces_slash rest⟩
    rw [full, under, empty]
    rfl
  · refine ⟨rest, ?_, rfl⟩
    rw [full, under, ← List.cons_append, ← named]

omit valid in
/-- The root is put in front of any other path. -/
theorem rooted_of_not_under
    (other : ∀ rest, text.dropWhile isSlash = root.dropWhile isSlash ++ rest →
      rest.head?.all isSlash = false) :
    ∃ below, rooted root text = root ++ below ∧ pieces below = pieces text := by
  have refused : ((root.dropWhile isSlash).isPrefixOf? (text.dropWhile isSlash)).any
      (fun rest => rest.isEmpty || rest.head? == some '/') = false := by
    cases found : (root.dropWhile isSlash).isPrefixOf? (text.dropWhile isSlash) with
    | none => rfl
    | some rest =>
        have refused := other rest (List.append_eq_of_isPrefixOf?_eq_some found).symm
        cases rest with
        | nil => simp at refused
        | cons c rest => simpa [isSlash] using refused
  have full : rooted root text = if (text.dropWhile isSlash).isEmpty then root
      else root ++ '/' :: text.dropWhile isSlash := by
    simp only [rooted, refused, Bool.false_eq_true, ↓reduceIte]
  rw [full, ← pieces_dropWhile text]
  split
  · next empty => exact ⟨[], (List.append_nil root).symm, by rw [List.isEmpty_iff.mp empty]⟩
  · exact ⟨_, rfl, pieces_slash _⟩

theorem exists_below (text : List Char) : ∃ below, rooted root text = root ++ below := by
  rcases under_or_not_under root text with ⟨rest, under, opens⟩ | other
  · obtain ⟨below, full, -⟩ := valid.rooted_of_under opens under
    exact ⟨below, full⟩
  · obtain ⟨below, full, -⟩ := rooted_of_not_under other
    exact ⟨below, full⟩

/-- The root does not end in a slash, so slashes at the end of a path are cut below it. -/
theorem dropTrailing_rooted {below : List Char} (full : rooted root text = root ++ below) :
    Text.dropTrailing isSlash (rooted root text) = root ++ Text.dropTrailing isSlash below := by
  rw [full, Text.dropTrailing_append valid.dropTrailing_eq]

theorem segments_of_rooted {below : List Char} (full : rooted root text = root ++ below) :
    segments root text = pieces below := by
  rw [segments, valid.dropTrailing_rooted full, Text.fromByte?_append]
  exact pieces_dropTrailing below

/-- A path that has the name of the root in front of a slash, or by itself, has the segments that
follow the name. -/
theorem segments_of_under {rest : List Char} (opens : rest.head?.all isSlash)
    (under : text.dropWhile isSlash = root.dropWhile isSlash ++ rest) :
    segments root text = pieces rest := by
  obtain ⟨below, full, same⟩ := valid.rooted_of_under opens under
  rw [valid.segments_of_rooted full, same]

/-- A path that does not have the name of the root has all its segments below the root. -/
theorem segments_of_not_under
    (other : ∀ rest, text.dropWhile isSlash = root.dropWhile isSlash ++ rest →
      rest.head?.all isSlash = false) : segments root text = pieces text := by
  obtain ⟨below, full, same⟩ := rooted_of_not_under other
  rw [valid.segments_of_rooted full, same]

end Rooted

theorem dropWhile_append (nonempty : root ≠ []) (rest : List Char) :
    (root ++ rest).dropWhile isSlash = root.dropWhile isSlash ++ rest := by
  rcases valid with rfl | ⟨name, rfl, named, starts, -⟩
  · exact absurd rfl nonempty
  · cases name with
    | nil => exact absurd rfl named
    | cons c others =>
        have solid : isSlash c = false := starts c rfl
        change (c :: others ++ rest).dropWhile isSlash = (c :: others).dropWhile isSlash ++ rest
        simp [solid]

theorem dropWhile_eq_tail : root.dropWhile isSlash = root.tail := by
  rcases valid.eq_nil_or_eq_slash with empty | named
  · rw [empty]
    rfl
  · conv_rhs => rw [named]
    rfl

/-- The segments are those of the path that is left without the name of the root. -/
theorem segments_eq_pieces (text : List Char) :
    segments root text = pieces (withoutName root.tail (text.dropWhile isSlash)) := by
  rw [← valid.dropWhile_eq_tail]
  rcases under_or_not_under root text with ⟨rest, under, opens⟩ | other
  · rw [valid.segments_of_under opens under, under, withoutName_append _ opens]
  · rw [valid.segments_of_not_under other, withoutName_eq_self other, pieces_dropWhile]

theorem mem_segments {text segment : List Char} (listed : segment ∈ segments root text) :
    IsSegment segment ∧ ∀ c ∈ segment, c ∈ text := by
  rw [valid.segments_eq_pieces] at listed
  obtain ⟨formed, within⟩ := mem_pieces listed
  refine ⟨formed, fun c inside => ?_⟩
  have kept := (withoutName_suffix _ _).subset (within c inside)
  exact (List.dropWhile_suffix isSlash).subset kept

end IsRoot

theorem segments_nil (text : List Char) : segments [] text = pieces text := by
  have valid : IsRoot [] := .inl rfl
  rw [valid.segments_eq_pieces, List.tail_nil, withoutName_nil, pieces_dropWhile]

theorem IsRoot.segments_append {root : List Char} (valid : IsRoot root) {rest : List Char}
    (opens : rest.head?.all isSlash) : segments root (root ++ rest) = pieces rest := by
  by_cases empty : root = []
  · rw [empty, List.nil_append, segments_nil]
  · exact valid.segments_of_under opens (valid.dropWhile_append empty rest)

end ResourceRouter.Locator
