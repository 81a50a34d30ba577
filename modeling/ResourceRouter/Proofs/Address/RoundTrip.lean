import ResourceRouter.Proofs.Address.Shape
import ResourceRouter.Proofs.Address.Spelled

set_option autoImplicit false

/-!
Addresses and their canonical hrefs. What is read is well formed, whatever the text and the root.
Reading undoes writing for every address that segments spell, and the href of an address that was
read leads to it again, unless its last part ends in a blank.
-/

namespace ResourceRouter.Locator

theorem trim_append_slash {first : List Char} (opens : first.head?.all isSlash)
    (second : List Char) :
    Text.trim (first ++ '/' :: second) = first ++ '/' :: Text.dropTrailing Text.isBlank second := by
  have starts : Text.trimStart first = first := by
    cases first with
    | nil => rfl
    | cons c rest =>
        obtain rfl : c = '/' := by simpa [isSlash] using opens
        rfl
  rw [Text.trim_append_cons rfl, starts]

section Parse

variable (root : String) (decoder : TokenDecoder)

theorem isRoot_under : IsRoot (under root decoder).root.toList := by
  rw [under, String.toList_ofList]
  exact isRoot_normalizeRoot root.toList

theorem head?_root_append {rest : List Char} (opens : rest.head?.all isSlash) :
    ((under root decoder).root.toList ++ rest).head?.all isSlash := by
  rcases isRoot_under root decoder with empty | ⟨name, named, -⟩
  · rw [empty]
    exact opens
  · rw [named]
    rfl

/-- A path under the root spells the address of the segments below the root. -/
theorem parse_of_trim {href : String} {rest : List Char} (opens : rest.head?.all isSlash)
    (plain : ∀ c ∈ (under root decoder).root.toList ++ rest, c ≠ '?' ∧ c ≠ '#')
    (trimmed : Text.trim href.toList = (under root decoder).root.toList ++ rest) :
    (under root decoder).parse href =
      ofSegments decoder.canonical ((pieces rest).map String.ofList) := by
  rw [parse, trimmed, pathOf_of_slash (head?_root_append root decoder opens),
    withoutQuery_eq plain, (isRoot_under root decoder).segments_append opens]
  rfl

theorem toList_href (address : Address) :
    ((under root decoder).href address).toList =
      (under root decoder).root.toList ++ path (address.segments.map String.toList) := by
  have fixed := (isRoot_under root decoder).dropTrailing_eq
  rw [href, Address.href, String.toList_ofList]
  change Text.dropTrailing isSlash _ ++ _ = _
  rw [fixed, path, List.flatMap_map]

/-- Of a canonical href, trimming changes the last part only. -/
theorem trim_href_of_segments {address : Address} {first : List String} {last : String}
    (parts : address.segments = first ++ [last]) :
    Text.trim ((under root decoder).href address).toList =
      (under root decoder).root.toList ++
        (path (first.map String.toList) ++
          '/' :: Text.dropTrailing Text.isBlank last.toList) := by
  have split : path ((first ++ [last]).map String.toList) =
      path (first.map String.toList) ++ '/' :: last.toList := by
    simp
  rw [toList_href, parts, split, ← List.append_assoc,
    trim_append_slash (head?_root_append root decoder (head?_path _)), List.append_assoc]

theorem trim_root (ends : Text.endsInBlank (under root decoder).root.toList = false) :
    Text.trim (under root decoder).root.toList = (under root decoder).root.toList := by
  have kept := Text.endsInBlank_eq_false_iff.mp ends
  rcases isRoot_under root decoder with empty | ⟨name, named, -⟩
  · rw [empty]
    rfl
  · rw [named] at kept ⊢
    rw [Text.dropTrailing_cons (by decide)] at kept
    change Text.trim ([] ++ '/' :: name) = _
    rw [trim_append_slash rfl, List.nil_append, kept]

theorem trim_href {address : Address}
    (rootEnds : Text.endsInBlank (under root decoder).root.toList = false)
    (partEnds : ∀ last ∈ address.segments.getLast?, Text.endsInBlank last.toList = false) :
    Text.trim ((under root decoder).href address).toList =
      (under root decoder).root.toList ++ path (address.segments.map String.toList) := by
  rcases List.eq_nil_or_concat' address.segments with none | ⟨first, last, parts⟩
  · rw [toList_href, none]
    change Text.trim (_ ++ []) = _ ++ []
    rw [List.append_nil, trim_root root decoder rootEnds]
  · have kept : Text.dropTrailing Text.isBlank last.toList = last.toList := by
      apply Text.endsInBlank_eq_false_iff.mp
      apply partEnds
      rw [parts, List.getLast?_concat]
      rfl
    rw [trim_href_of_segments root decoder parts, kept, parts]
    simp

/-- A path of plain segments under the root spells the address of those segments. -/
theorem parse_of_segments {href : String} {segments : List String}
    (plainSegments : ∀ segment ∈ segments, IsPlainSegment segment)
    (plainRoot : ∀ c ∈ (under root decoder).root.toList, c ≠ '?' ∧ c ≠ '#')
    (trimmed : Text.trim href.toList =
      (under root decoder).root.toList ++ path (segments.map String.toList)) :
    (under root decoder).parse href = ofSegments decoder.canonical segments := by
  have each := isSegment_of_plain plainSegments
  have plain : ∀ c ∈ (under root decoder).root.toList ++ path (segments.map String.toList),
      c ≠ '?' ∧ c ≠ '#' := by
    intro c inside
    rcases List.mem_append.mp inside with inRoot | below
    · exact plainRoot c inRoot
    · exact plain_path plainSegments c below
  rw [parse_of_trim root decoder (head?_path _) plain trimmed, pieces_path each, List.map_map,
    String.ofList_comp_toList, List.map_id]

theorem parse_href_of_trim {address : Address} (spelled : address.IsSpelled decoder)
    (plainRoot : ∀ c ∈ (under root decoder).root.toList, c ≠ '?' ∧ c ≠ '#')
    (trimmed : Text.trim ((under root decoder).href address).toList =
      (under root decoder).root.toList ++ path (address.segments.map String.toList)) :
    (under root decoder).parse ((under root decoder).href address) = address := by
  rw [parse_of_segments root decoder spelled.segment_plain plainRoot trimmed]
  exact ofSegments_segments spelled

theorem isSpelled_parse (href : String) :
    ((under root .compressed).parse href).IsSpelled .compressed := by
  apply isSpelled_ofSegments
  intro segment listed
  obtain ⟨text, given, rfl⟩ := List.mem_map.mp listed
  obtain ⟨formed, within⟩ := (isRoot_under root .compressed).mem_segments given
  refine ⟨fun empty => formed.1 ?_, fun c inside => ?_⟩
  · rw [← String.toList_ofList (l := text), empty, String.toList_empty]
  · rw [String.toList_ofList] at inside
    have kept := List.mem_takeWhile_imp (within c inside)
    have slash : c ≠ '/' := by
      rintro rfl
      exact formed.2 inside
    exact ⟨slash, by simpa using kept⟩

/-- Whatever text is read under whatever root, the address has its parts in order, none of them could
end a path, its ids are decoded, and so its shape is one of the four that have a name. -/
theorem parse_wellFormed (href : String) :
    let address := (under root .compressed).parse href
    address.IsSpelled .compressed ∧
      address.shape ∈ [.collection, .resource, .subcollection, .subresource] ∧
      address.shape ≠ ⟨.collection, .subcollection⟩ ∧
      (address.shape.isSubcollection = true ↔ address.subcollection.isSome = true) ∧
      (address.targetId = none ↔ address.shape.targetsMany = true) := by
  intro address
  have spelled : address.IsSpelled .compressed := isSpelled_parse root href
  have named := Address.shape_mem spelled.collectionId_given
  refine ⟨spelled, named, ?_, ?_, ?_⟩
  · intro other
    rw [other] at named
    revert named
    decide
  · rw [Address.isSubcollection_shape]
  · rw [Address.targetsMany_shape, Option.isNone_iff_eq_none]

theorem pieces_of_no_slash {text : List Char} (solid : '/' ∉ text) :
    pieces text = [] ∨ pieces text = [text] := by
  by_cases empty : text = []
  · exact .inl (by rw [empty]; rfl)
  · exact .inr (pieces_segment ⟨empty, solid⟩)

theorem pieces_path_slash {segments : List String}
    (plain : ∀ segment ∈ segments, IsPlainSegment segment) (text : List Char) :
    (pieces (path (segments.map String.toList) ++ '/' :: text)).map String.ofList =
      segments ++ (pieces text).map String.ofList := by
  rw [pieces_append_slash, pieces_path (isSegment_of_plain plain), List.map_append, List.map_map,
    String.ofList_comp_toList, List.map_id]

/-- A last part that ends in a blank is read without its blanks, or not at all. -/
theorem parse_href_of_segments {address : Address} {first : List String} {last : String}
    (plain : ∀ segment ∈ address.segments, IsPlainSegment segment)
    (plainRoot : ∀ c ∈ (under root decoder).root.toList, c ≠ '?' ∧ c ≠ '#')
    (parts : address.segments = first ++ [last]) :
    (under root decoder).parse ((under root decoder).href address) =
      ofSegments decoder.canonical (first ++
        (pieces (Text.dropTrailing Text.isBlank last.toList)).map String.ofList) := by
  have plainFirst : ∀ segment ∈ first, IsPlainSegment segment := fun segment given =>
    plain segment (by rw [parts]; exact List.mem_append_left _ given)
  have plainLast : IsPlainSegment last := plain last (by rw [parts]; simp)
  have opens : (path (first.map String.toList) ++
      '/' :: Text.dropTrailing Text.isBlank last.toList).head?.all isSlash := by
    cases first <;> rfl
  have plainAll : ∀ c ∈ (under root decoder).root.toList ++ (path (first.map String.toList) ++
      '/' :: Text.dropTrailing Text.isBlank last.toList), c ≠ '?' ∧ c ≠ '#' := by
    intro c inside
    rcases List.mem_append.mp inside with inRoot | below
    · exact plainRoot c inRoot
    rcases List.mem_append.mp below with inFirst | after
    · exact plain_path plainFirst c inFirst
    rcases List.mem_cons.mp after with rfl | inLast
    · decide
    · exact (plainLast.2 c ((Text.dropTrailing_prefix last.toList).subset inLast)).2
  rw [parse_of_trim root decoder opens plainAll (trim_href_of_segments root decoder parts),
    pieces_path_slash plainFirst]

/-- The address of other segments has no last part that ends in a blank, unless it has fewer
parts. -/
theorem endsInBlank_of_segments {segments first : List String} {last token : String}
    (fewer : segments = first ∨ segments = first ++ [token])
    (ends : Text.endsInBlank token.toList = false)
    (parts : (ofSegments TokenDecoder.compressed.canonical segments).segments = first ++ [last]) :
    Text.endsInBlank last.toList = false := by
  obtain ⟨taken, within, each⟩ :=
    taken_segments_ofSegments TokenDecoder.compressed.canonical segments
  rw [parts] at each
  have count : taken.length = first.length + 1 := by
    rw [each.length_eq, List.length_append]
    rfl
  have most := within.length_le
  rcases fewer with rfl | rfl
  · omega
  · have all : taken = first ++ [token] := by
      apply within.eq_of_length
      rw [count, List.length_append]
      rfl
    rw [all, ← List.forall₂_reverse_iff, List.reverse_concat, List.reverse_concat] at each
    rcases (List.forall₂_cons.mp each).1 with rfl | rfl
    · exact ends
    · exact TokenDecoder.endsInBlank_canonical ends

/-- Reading undoes writing: the canonical href of an address that segments spell leads to that
address, whatever its collections are called. -/
theorem parse_href {address : Address} (spelled : address.IsSpelled decoder)
    (plainRoot : ∀ c ∈ (under root decoder).root.toList, c ≠ '?' ∧ c ≠ '#')
    (rootEnds : Text.endsInBlank (under root decoder).root.toList = false)
    (partEnds : ∀ last ∈ address.segments.getLast?, Text.endsInBlank last.toList = false) :
    (under root decoder).parse ((under root decoder).href address) = address :=
  parse_href_of_trim root decoder spelled plainRoot (trim_href root decoder rootEnds partEnds)

/-- A collection with the name of the root, and another one that starts with it. -/
def namesake : Address := ⟨some "api", some "a b", some "api:2", some "7", some "v1.0-x"⟩

theorem parse_href_namesake :
    namesake.IsSpelled .compressed ∧
    (under "/api" .compressed).href namesake = "/api/v1.0-x/api/a b/api:2/7" ∧
    (under "/api" .compressed).parse "/api/v1.0-x/api/a b/api:2/7" = namesake := by
  have spelled : namesake.IsSpelled .compressed := by
    constructor <;> decide +kernel
  have written : (under "/api" .compressed).href namesake = "/api/v1.0-x/api/a b/api:2/7" := by
    decide +kernel
  have plainRoot : ∀ c ∈ (under "/api" .compressed).root.toList, c ≠ '?' ∧ c ≠ '#' := by
    have each : (under "/api" .compressed).root.toList.all (fun c => c ≠ '?' ∧ c ≠ '#') = true := by
      decide +kernel
    simpa using each
  have read := parse_href "/api" .compressed spelled plainRoot (by decide +kernel)
    (by decide +kernel)
  rw [written] at read
  exact ⟨spelled, written, read⟩

end Parse

/-- The canonical href of an address that was read leads to that address again exactly when the last
part of the address does not end in a blank: blanks are cut off before the query is. -/
theorem parse_href_parse_iff (root : String)
    (plainRoot : ∀ c ∈ (under root .compressed).root.toList,
      c ≠ '?' ∧ c ≠ '#' ∧ Text.isBlank c = false) (href : String) :
    (under root .compressed).parse
        ((under root .compressed).href ((under root .compressed).parse href)) =
      (under root .compressed).parse href ↔
    ∀ last ∈ ((under root .compressed).parse href).segments.getLast?,
      Text.endsInBlank last.toList = false := by
  have spelled := isSpelled_parse root href
  have noQuery : ∀ c ∈ (under root .compressed).root.toList, c ≠ '?' ∧ c ≠ '#' :=
    fun c inside => ⟨(plainRoot c inside).1, (plainRoot c inside).2.1⟩
  generalize (under root .compressed).parse href = address at spelled ⊢
  constructor
  · intro same last final
    obtain ⟨first, parts⟩ := List.getLast?_eq_some_iff.mp final
    have solid : '/' ∉ Text.dropTrailing Text.isBlank last.toList := by
      intro slash
      have plain := spelled.segment_plain last (by rw [parts]; simp)
      exact (plain.2 '/' ((Text.dropTrailing_prefix last.toList).subset slash)).1 rfl
    have ends : Text.endsInBlank
        (String.ofList (Text.dropTrailing Text.isBlank last.toList)).toList = false := by
      rw [String.toList_ofList, Text.endsInBlank_eq_false_iff]
      exact List.rdropWhile_idempotent _ _
    rw [parse_href_of_segments root .compressed spelled.segment_plain noQuery parts] at same
    apply endsInBlank_of_segments _ ends (by rw [same, parts] : _ = first ++ [last])
    rcases pieces_of_no_slash solid with none | one
    · exact .inl (by rw [none, List.map_nil, List.append_nil])
    · exact .inr (by rw [one]; rfl)
  · intro partEnds
    have rootEnds : Text.endsInBlank (under root .compressed).root.toList = false := by
      rw [Text.endsInBlank_eq_false_iff, Text.dropTrailing_eq_self_iff]
      intro last final
      exact (plainRoot last (List.mem_of_getLast? final)).2.2
    exact parse_href_of_trim root .compressed spelled noQuery
      (trim_href root .compressed rootEnds partEnds)

theorem parse_href_parse_iff_machines :
    (∀ c ∈ (under "/api" .compressed).root.toList, c ≠ '?' ∧ c ≠ '#' ∧ Text.isBlank c = false) ∧
    (under "/api" .compressed).parse
        ((under "/api" .compressed).href ((under "/api" .compressed).parse " /v1/machines/1r5/?q")) =
      (under "/api" .compressed).parse " /v1/machines/1r5/?q" := by
  have plainRoot : ∀ c ∈ (under "/api" .compressed).root.toList,
      c ≠ '?' ∧ c ≠ '#' ∧ Text.isBlank c = false := by
    have each : (under "/api" .compressed).root.toList.all
        (fun c => c ≠ '?' ∧ c ≠ '#' ∧ Text.isBlank c = false) = true := by
      decide +kernel
    simpa using each
  refine ⟨plainRoot, (parse_href_parse_iff "/api" plainRoot " /v1/machines/1r5/?q").mpr ?_⟩
  decide +kernel

/-- The blank before a query stays in the id that is read, and is lost when the href is read. -/
theorem parse_href_parse_blank :
    (under "/api" .compressed).parse
        ((under "/api" .compressed).href ((under "/api" .compressed).parse "machines/1 ?q")) ≠
      (under "/api" .compressed).parse "machines/1 ?q" := by
  decide +kernel

end ResourceRouter.Locator
