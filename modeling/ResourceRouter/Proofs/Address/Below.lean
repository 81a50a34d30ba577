import Mathlib.Data.List.Infix
import ResourceRouter.Proofs.Address.RoundTrip

set_option autoImplicit false

/-!
What stands below the root. The name of the root is cut off a path that has it, and the texts between
the slashes of what is left make up the address, each of them one part of it: none is lost on the way,
and none is added. The byte offset of the root falls right behind the root in every path.
-/

namespace ResourceRouter

namespace Address

/-- The address that names spell part by part: a collection, an id, a subcollection and an id. Names
after the fourth are not read. -/
def ofNames (canonical : String → String) : List String → Address
  | [] => entrypoint
  | [collection] => ofCollection collection
  | [collection, id] => ofResource collection (canonical id)
  | [collection, id, subcollection] =>
    (ofResource collection (canonical id)).withSubcollection subcollection none
  | collection :: id :: subcollection :: member :: _ =>
    (ofResource collection (canonical id)).withSubcollection subcollection (some (canonical member))

/-- The address of a path: a version tag may stand before the other names. -/
def ofPath (canonical : String → String) : List String → Address
  | [] => entrypoint
  | first :: rest =>
    if isVersionTag first then (ofNames canonical rest).withVersion first
    else ofNames canonical (first :: rest)

theorem ofNames_eq (canonical : String → String) (names : List String) :
    ofNames canonical names =
      ⟨names[0]?, names[1]?.map canonical, names[2]?, names[3]?.map canonical, none⟩ := by
  match names with
  | [] => rfl
  | [_] => rfl
  | [_, _] => rfl
  | [_, _, _] => rfl
  | _ :: _ :: _ :: _ :: _ => rfl

theorem ofSegments_eq_ofPath (canonical : String → String) (segments : List String) :
    Locator.ofSegments canonical segments = ofPath canonical segments := by
  rcases Locator.tagged_or_untagged segments with ⟨version, rest, rfl, tag⟩ | untagged
  · rw [Locator.ofSegments_tagged canonical tag, ofPath, if_pos tag, ofNames_eq]
    rfl
  · rw [Locator.ofSegments_untagged canonical untagged, ← ofNames_eq]
    cases segments with
    | nil => rfl
    | cons first rest => rw [ofPath, untagged first rfl, if_neg Bool.false_ne_true]

end Address

namespace Locator

/-- Every path starts with the root once it is rooted, so that the offset of the root is a boundary
inside it. -/
theorem IsRoot.fromByte?_rooted {root : List Char} (valid : IsRoot root) (text : List Char) :
    ∃ below, Text.dropTrailing isSlash (rooted root text) = root ++ below ∧
      Text.fromByte? (Text.byteLength root) (Text.dropTrailing isSlash (rooted root text)) =
        some below := by
  obtain ⟨below, full⟩ := valid.exists_below text
  have cut := valid.dropTrailing_rooted full
  refine ⟨_, cut, ?_⟩
  rw [cut, Text.fromByte?_append]

theorem hasSchemeMark_iff {text : List Char} :
    hasSchemeMark text = true ↔ [':', '/', '/'] <:+: text := by
  induction text with
  | nil => simp [hasSchemeMark]
  | cons c rest ih =>
      rw [hasSchemeMark, Bool.or_eq_true, ih, List.isPrefixOf_iff_prefix, List.infix_cons_iff]

/-- A text without the mark between a scheme and a host has none after trimming either, and is a path
itself. -/
theorem pathOf_trim {text : List Char} (relative : ¬ [':', '/', '/'] <:+: text) :
    pathOf (Text.trim text) = Text.trim text := by
  have unmarked : hasSchemeMark (Text.trim text) = false := by
    apply Bool.eq_false_iff.mpr
    intro marked
    exact relative ((hasSchemeMark_iff.mp marked).trans (Text.trim_infix text))
  rw [pathOf, unmarked, if_neg Bool.false_ne_true]

/-- Whatever root is given, a relative href leads to the address that the texts between the slashes
spell once the name of the root is cut off, and the byte offset of the root always cuts the path right
behind the root. -/
theorem parse_relative (root : String) (decoder : TokenDecoder) {href : String}
    (relative : ¬ [':', '/', '/'] <:+: href.toList) :
    let base := (under root decoder).root.toList
    let path := withoutQuery (Text.trim href.toList)
    let full := Text.dropTrailing isSlash (rooted base path)
    (under root decoder).parse href =
        Address.ofPath decoder.canonical
          ((pieces (withoutName base.tail (path.dropWhile isSlash))).map String.ofList) ∧
      ∃ below, full = base ++ below ∧ Text.fromByte? (Text.byteLength base) full = some below := by
  intro base path full
  have valid : IsRoot base := isRoot_under root decoder
  refine ⟨?_, valid.fromByte?_rooted path⟩
  rw [parse, pathOf_trim relative, Address.ofSegments_eq_ofPath, valid.segments_eq_pieces]
  rfl

/-- The name of the root has two segments, and more bytes than characters. -/
theorem parse_relative_nested :
    ¬ [':', '/', '/'] <:+: " //ops/é//v2/machines/1r5/tags/7/more/?at=1".toList ∧
    (under "ops/é/" .compressed).parse " //ops/é//v2/machines/1r5/tags/7/more/?at=1" =
      ⟨some "machines", some "1000000000005", some "tags", some "7", some "v2"⟩ ∧
    Text.fromByte? 7 ("/ops/é".toList ++ "//v2/machines/1r5/tags/7/more".toList) =
      some "//v2/machines/1r5/tags/7/more".toList := by
  have relative : ¬ [':', '/', '/'] <:+: " //ops/é//v2/machines/1r5/tags/7/more/?at=1".toList := by
    decide +kernel
  have base : (under "ops/é/" .compressed).root.toList = "/ops/é".toList := by decide +kernel
  have path : Text.dropTrailing isSlash (rooted "/ops/é".toList (withoutQuery (Text.trim
      " //ops/é//v2/machines/1r5/tags/7/more/?at=1".toList))) =
        "/ops/é".toList ++ "//v2/machines/1r5/tags/7/more".toList := by decide +kernel
  have offset : Text.byteLength "/ops/é".toList = 7 := by decide +kernel
  obtain ⟨read, below, full, cut⟩ := parse_relative "ops/é/" .compressed relative
  rw [base, path] at full
  rw [base, path, offset, ← List.append_cancel_left full] at cut
  exact ⟨relative, read.trans (by decide +kernel), cut⟩

end Locator

end ResourceRouter
