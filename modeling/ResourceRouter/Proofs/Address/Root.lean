import Mathlib.Logic.Function.Iterate
import ResourceRouter.Proofs.Address.RoundTrip
import ResourceRouter.Proofs.Address.VersionTag

set_option autoImplicit false

/-!
Roots that are normalized again. Blanks are trimmed before slashes are, so the slash that protects a
blank at the end of a root is gone after the first time: the second takes the blank as well, and leads
the hrefs under the root elsewhere.
-/

namespace ResourceRouter

theorem Text.mem_dropTrailing {α : Type} {test : α → Bool} {c : α} {text : List α}
    (inside : c ∈ text) (kept : test c = false) : c ∈ dropTrailing test text := by
  obtain ⟨first, second, rfl⟩ := List.append_of_mem inside
  rw [dropTrailing_append_cons kept]
  simp

namespace Locator

/-- The last text between slashes ends as the whole does. -/
theorem getLast?_pieces {text : List Char} {c : Char} (ends : text.getLast? = some c)
    (solid : c ≠ '/') : ∃ last, (pieces text).getLast? = some last ∧ last.getLast? = some c := by
  by_cases slash : '/' ∈ text
  · obtain ⟨first, second, split⟩ := List.append_of_mem slash
    have shorter : second.length < text.length := by
      simp [split]
      omega
    rw [split] at ends ⊢
    cases second with
    | nil =>
        rw [List.getLast?_concat] at ends
        exact absurd (Option.some.inj ends).symm solid
    | cons d rest =>
        have later : (d :: rest).getLast? = some c := by
          rw [← ends, List.getLast?_append_of_ne_nil _ (by simp), List.getLast?_cons_cons]
        obtain ⟨last, final, same⟩ := getLast?_pieces later solid
        have nonempty : pieces (d :: rest) ≠ [] := by
          intro nothing
          rw [nothing] at final
          cases final
        refine ⟨last, ?_, same⟩
        rw [pieces_append_slash, List.getLast?_append_of_ne_nil _ nonempty, final]
  · have nonempty : text ≠ [] := by
      rintro rfl
      cases ends
    rw [pieces_segment ⟨nonempty, slash⟩]
    exact ⟨text, rfl, ends⟩
termination_by text.length

/-- Segments of which the last is no version tag name a collection. -/
theorem isSome_collection_ofSegments (canonical : String → String) {segments : List String}
    {last : String} (ends : segments.getLast? = some last) (noTag : isVersionTag last = false) :
    (ofSegments canonical segments).collection.isSome := by
  rcases tagged_or_untagged segments with ⟨version, rest, rfl, tag⟩ | untagged
  · rw [ofSegments_tagged _ tag]
    cases rest with
    | nil =>
        obtain rfl : version = last := Option.some.inj ends
        rw [tag] at noTag
        cases noTag
    | cons part rest => rfl
  · rw [ofSegments_untagged _ untagged]
    cases segments with
    | nil => cases ends
    | cons part rest => rfl

section Root

variable {root : List Char} (valid : IsRoot root)
include valid

/-- Normalizing a root again takes blanks from its end, and then slashes. -/
theorem normalizeRoot_of_isRoot :
    normalizeRoot root = Text.dropTrailing isSlash (Text.dropTrailing Text.isBlank root) := by
  rcases valid with rfl | ⟨name, rfl, -, starts, -⟩
  · rfl
  · have trimmed : Text.trim ('/' :: name) = '/' :: Text.dropTrailing Text.isBlank name :=
      trim_append_slash (rfl : [].head?.all isSlash) name
    have opens : ∀ c ∈ (Text.dropTrailing Text.isBlank name).head?, isSlash c = false := by
      intro c first
      obtain ⟨rest, same⟩ : Text.dropTrailing Text.isBlank name <+: name :=
        Text.dropTrailing_prefix name
      apply starts
      rw [← same, List.head?_append, Option.mem_def.mp first]
      rfl
    have bare : (Text.dropTrailing Text.isBlank name).dropWhile isSlash =
        Text.dropTrailing Text.isBlank name := by
      cases kept : Text.dropTrailing Text.isBlank name with
      | nil => rfl
      | cons c rest => exact List.dropWhile_cons_of_neg (by simp [opens c (by rw [kept]; rfl)])
    rw [normalizeRoot, trimmed, List.dropWhile_cons_of_pos rfl, bare,
      Text.dropTrailing_cons (by decide : Text.isBlank '/' = false)]
    exact Text.dropTrailing_append_dropTrailing ['/'] _

theorem isPrefix_normalizeRoot : normalizeRoot root <+: root := by
  rw [normalizeRoot_of_isRoot valid]
  exact (Text.dropTrailing_prefix _).trans (Text.dropTrailing_prefix root)

/-- Only a root that ends in a blank is changed when it is normalized again. -/
theorem normalizeRoot_eq_self_iff :
    normalizeRoot root = root ↔ Text.endsInBlank root = false := by
  rw [Text.endsInBlank_eq_false_iff, normalizeRoot_of_isRoot valid]
  have cut : Text.dropTrailing Text.isBlank root <+: root := Text.dropTrailing_prefix root
  constructor
  · intro same
    have whole : root <+: Text.dropTrailing Text.isBlank root := by
      conv_lhs => rw [← same]
      exact Text.dropTrailing_prefix _
    exact cut.eq_of_length_le whole.length_le
  · intro kept
    rw [kept, valid.dropTrailing_eq]

theorem mem_normalizeRoot {c : Char} (inside : c ∈ root) (solid : Text.isBlank c = false)
    (noSlash : isSlash c = false) : c ∈ normalizeRoot root := by
  rw [normalizeRoot_of_isRoot valid]
  exact Text.mem_dropTrailing (Text.mem_dropTrailing inside solid) noSlash

end Root

section Repeated

variable {root : List Char} (valid : IsRoot root) (count : Nat)
include valid

theorem isRoot_iterate : IsRoot (normalizeRoot^[count] root) := by
  cases count with
  | zero => exact valid
  | succ count =>
      rw [Function.iterate_succ_apply']
      exact isRoot_normalizeRoot _

theorem isPrefix_iterate : normalizeRoot^[count] root <+: root := by
  induction count with
  | zero => exact List.prefix_rfl
  | succ count ih =>
      rw [Function.iterate_succ_apply']
      exact (isPrefix_normalizeRoot (isRoot_iterate valid count)).trans ih

theorem iterate_eq_self_iff :
    normalizeRoot^[count] root = root ↔ count = 0 ∨ Text.endsInBlank root = false := by
  rw [← normalizeRoot_eq_self_iff valid]
  constructor
  · intro same
    cases count with
    | zero => exact .inl rfl
    | succ count =>
        right
        have once : IsRoot (normalizeRoot root) := isRoot_normalizeRoot root
        have whole : root <+: normalizeRoot root := by
          conv_lhs => rw [← same]
          exact isPrefix_iterate once count
        exact (isPrefix_normalizeRoot valid).eq_of_length_le whole.length_le
  · rintro (rfl | kept)
    · rfl
    · exact Function.iterate_fixed kept count

theorem mem_iterate {c : Char} (inside : c ∈ root) (solid : Text.isBlank c = false)
    (noSlash : isSlash c = false) : c ∈ normalizeRoot^[count] root := by
  induction count with
  | zero => exact inside
  | succ count ih =>
      rw [Function.iterate_succ_apply']
      exact mem_normalizeRoot (isRoot_iterate valid count) ih solid noSlash

end Repeated

/-- No path has a root that would end it: all its segments are below the root. -/
theorem IsRoot.segments_of_mark {root path : List Char} (valid : IsRoot root)
    (marked : '?' ∈ root ∨ '#' ∈ root) :
    segments root (withoutQuery path) = pieces (withoutQuery path) := by
  apply valid.segments_of_not_under
  intro rest split
  have unmarked : ∀ c ∈ withoutQuery path, c ≠ '?' ∧ c ≠ '#' := by
    intro c inside
    simpa using List.mem_takeWhile_imp inside
  have within : ∀ c ∈ root, isSlash c = false → c ∈ withoutQuery path := by
    intro c inside solid
    have bare : c ∈ root.dropWhile isSlash := by
      rcases valid.eq_nil_or_eq_slash with empty | named
      · rw [empty] at inside
        cases inside
      · rw [named] at inside
        rcases List.mem_cons.mp inside with rfl | later
        · cases solid
        · exact later
    apply (List.dropWhile_suffix isSlash).subset
    rw [split]
    exact List.mem_append_left rest bare
  rcases marked with query | fragment
  · exact absurd rfl (unmarked '?' (within '?' query rfl)).1
  · exact absurd rfl (unmarked '#' (within '#' fragment rfl)).2

/-- Under a shorter root, what is left of a longer one is part of the segments. -/
theorem IsRoot.getLast?_segments {root tail : List Char} {c : Char} (valid : IsRoot root)
    (ends : tail.getLast? = some c) (solid : c ≠ '/') :
    ∃ last, (segments root (root ++ (tail ++ ['/']))).getLast? = some last ∧
      last.getLast? = some c := by
  have closed (text : List Char) : pieces (text ++ ['/']) = pieces text := by
    rw [pieces_append_slash, pieces_nil, List.append_nil]
  by_cases opens : (tail ++ ['/']).head?.all isSlash
  · rw [valid.segments_append opens, closed]
    exact getLast?_pieces ends solid
  · have whole : segments root (root ++ (tail ++ ['/'])) = pieces (root ++ tail) := by
      rw [← closed, List.append_assoc]
      by_cases empty : root = []
      · rw [empty, List.nil_append, segments_nil]
      · apply valid.segments_of_not_under
        intro rest split
        rw [valid.dropWhile_append empty] at split
        rw [← List.append_cancel_left split]
        simpa using opens
    have nonempty : tail ≠ [] := by
      rintro rfl
      cases ends
    rw [whole]
    apply getLast?_pieces _ solid
    rw [List.getLast?_append_of_ne_nil _ nonempty, ends]

section Parse

variable {root : List Char} (valid : IsRoot root) (decoder : TokenDecoder)
include valid

/-- Under a root that would end a path, addresses are read as under any other such root. -/
theorem IsRoot.parse_of_mark (marked : '?' ∈ root ∨ '#' ∈ root) (href : String) :
    (Locator.mk (String.ofList root) decoder).parse href =
      ofSegments decoder.canonical
        ((pieces (withoutQuery (pathOf (Text.trim href.toList)))).map String.ofList) := by
  rw [parse, String.toList_ofList, valid.segments_of_mark marked]

variable (plain : ∀ c ∈ root, c ≠ '?' ∧ c ≠ '#')
include plain

/-- The path of a root, read under whatever root. -/
theorem IsRoot.parse_slash (other : List Char) :
    (Locator.mk (String.ofList other) decoder).parse (String.ofList (root ++ ['/'])) =
      ofSegments decoder.canonical ((segments other (root ++ ['/'])).map String.ofList) := by
  have opens : root.head?.all isSlash := by
    rcases valid with rfl | ⟨name, rfl, -⟩ <;> rfl
  have trimmed : Text.trim (root ++ ['/']) = root ++ ['/'] := trim_append_slash opens []
  have opensAll : (root ++ ['/']).head?.all isSlash := by
    cases root with
    | nil => rfl
    | cons c rest => exact opens
  have plainAll : ∀ c ∈ root ++ ['/'], c ≠ '?' ∧ c ≠ '#' := by
    intro c inside
    rcases List.mem_append.mp inside with inRoot | slash
    · exact plain c inRoot
    · rw [List.mem_singleton.mp slash]
      decide
  rw [parse, String.toList_ofList, String.toList_ofList, trimmed, pathOf_of_slash opensAll,
    withoutQuery_eq plainAll]

theorem IsRoot.parse_root :
    (Locator.mk (String.ofList root) decoder).parse (String.ofList (root ++ ['/'])) =
      .entrypoint := by
  have opens : ['/'].head?.all isSlash := rfl
  rw [valid.parse_slash decoder plain, valid.segments_append opens]
  rfl

/-- Once a root has lost the blank at its end, the path that was its own names a collection. -/
theorem IsRoot.isSome_collection_iterate {count : Nat}
    (changed : normalizeRoot^[count] root ≠ root) :
    ((Locator.mk (String.ofList (normalizeRoot^[count] root)) decoder).parse
      (String.ofList (root ++ ['/']))).collection.isSome := by
  have isRoot := isRoot_iterate valid count
  obtain ⟨tail, split⟩ := isPrefix_iterate valid count
  have nonempty : tail ≠ [] := by
    rintro rfl
    rw [List.append_nil] at split
    exact changed split
  have blank : Text.endsInBlank root = true := by
    by_contra solid
    exact changed ((iterate_eq_self_iff valid count).mpr (.inr (by simpa using solid)))
  obtain ⟨c, final, isBlank⟩ := (Option.any_eq_true _ _).mp blank
  have ends : tail.getLast? = some c := by
    rw [← final, ← split, List.getLast?_append_of_ne_nil _ nonempty]
  have solid : c ≠ '/' := by
    rintro rfl
    cases isBlank
  obtain ⟨last, listed, lastEnds⟩ := isRoot.getLast?_segments ends solid
  have path : root ++ ['/'] = normalizeRoot^[count] root ++ (tail ++ ['/']) := by
    rw [← List.append_assoc, split]
  rw [valid.parse_slash decoder plain, path]
  have names : ((segments (normalizeRoot^[count] root)
      (normalizeRoot^[count] root ++ (tail ++ ['/']))).map String.ofList).getLast? =
        some (String.ofList last) := by
    rw [List.getLast?_map, listed]
    rfl
  apply isSome_collection_ofSegments _ names
  by_contra tag
  have noBlank := isBlank_of_isVersionTag (by simpa using tag) c
  rw [String.toList_ofList, isBlank] at noBlank
  cases noBlank (List.mem_of_getLast? lastEnds)

end Parse

end Locator

end ResourceRouter
