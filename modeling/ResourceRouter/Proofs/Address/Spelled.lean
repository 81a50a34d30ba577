import ResourceRouter.Proofs.Address.Path
import ResourceRouter.Proofs.Address.RecordId
import ResourceRouter.Proofs.Stage

set_option autoImplicit false

/-!
Addresses and the segments that spell them. The segments of an address spell that address again, and
whatever segments spell is an address of this kind.
-/

namespace ResourceRouter

/-- A text that may stand between slashes without ending the path. -/
def IsPlainSegment (segment : String) : Prop :=
  segment ≠ "" ∧ ∀ c ∈ segment.toList, c ≠ '/' ∧ c ≠ '?' ∧ c ≠ '#'

instance : DecidablePred IsPlainSegment := fun segment =>
  decidable_of_iff
    (segment ≠ "" ∧ segment.toList.all (fun c => c ≠ '/' ∧ c ≠ '?' ∧ c ≠ '#') = true)
    (by simp [IsPlainSegment])

namespace Locator

section PlainSegments

variable {segments : List String} (plain : ∀ segment ∈ segments, IsPlainSegment segment)
include plain

theorem isSegment_of_plain : ∀ text ∈ segments.map String.toList, IsSegment text := by
  intro text listed
  obtain ⟨segment, given, rfl⟩ := List.mem_map.mp listed
  obtain ⟨nonempty, within⟩ := plain segment given
  refine ⟨fun empty => nonempty (String.toList_eq_nil_iff.mp empty), fun slash => ?_⟩
  exact (within '/' slash).1 rfl

theorem plain_path : ∀ c ∈ path (segments.map String.toList), c ≠ '?' ∧ c ≠ '#' := by
  intro c inside
  obtain ⟨text, listed, written⟩ := List.mem_flatMap.mp inside
  obtain ⟨segment, given, rfl⟩ := List.mem_map.mp listed
  rcases List.mem_cons.mp written with rfl | inSegment
  · decide
  · exact ((plain segment given).2 c inSegment).2

end PlainSegments

end Locator

/-- The parts of an address are those that the segments of some path spell, and its ids are
decoded. -/
structure Address.IsSpelled (decoder : TokenDecoder) (address : Address) : Prop where
  collection_given : address.collectionId.isSome → address.collection.isSome
  collectionId_given : address.subcollection.isSome → address.collectionId.isSome
  subcollection_given : address.subcollectionId.isSome → address.subcollection.isSome
  version_tag : ∀ version ∈ address.version, isVersionTag version = true
  collection_no_tag : address.version = none →
    ∀ collection ∈ address.collection, isVersionTag collection = false
  segment_plain : ∀ segment ∈ address.segments, IsPlainSegment segment
  collectionId_decoded : ∀ id ∈ address.collectionId, decoder.canonical id = id
  subcollectionId_decoded : ∀ id ∈ address.subcollectionId, decoder.canonical id = id

theorem Address.segments_eq (address : Address) :
    address.segments = address.version.toList ++
      [address.collection, address.collectionId, address.subcollection,
        address.subcollectionId].filterMap id := by
  rw [Address.segments, List.filterMap_cons]
  cases address.version <;> rfl

namespace Locator

/-- Where each part comes with the one before, leaving out the missing ones moves none. -/
theorem getElem?_parts {α : Type} {a b c d : Option α} (second : b.isSome → a.isSome)
    (third : c.isSome → b.isSome) (fourth : d.isSome → c.isSome) :
    ([a, b, c, d].filterMap id)[0]? = a ∧ ([a, b, c, d].filterMap id)[1]? = b ∧
      ([a, b, c, d].filterMap id)[2]? = c ∧ ([a, b, c, d].filterMap id)[3]? = d := by
  cases a with
  | none =>
      obtain rfl : b = none := by simpa using second
      obtain rfl : c = none := by simpa using third
      obtain rfl : d = none := by simpa using fourth
      simp
  | some a =>
      cases b with
      | none =>
          obtain rfl : c = none := by simpa using third
          obtain rfl : d = none := by simpa using fourth
          simp
      | some b =>
          cases c with
          | none =>
              obtain rfl : d = none := by simpa using fourth
              simp
          | some c => cases d <;> simp

theorem ofSegments_untagged (canonical : String → String) {segments : List String}
    (noTag : ∀ segment ∈ segments.head?, isVersionTag segment = false) :
    ofSegments canonical segments =
      ⟨segments[0]?, segments[1]?.map canonical, segments[2]?, segments[3]?.map canonical, none⟩ := by
  have unversioned : segments.head?.filter isVersionTag = none := by
    simpa [Option.filter_eq_none_iff] using noTag
  simp only [ofSegments, unversioned, Option.isSome_none, Bool.false_eq_true, ↓reduceIte]

theorem ofSegments_tagged (canonical : String → String) {version : String}
    (tag : isVersionTag version = true) (rest : List String) :
    ofSegments canonical (version :: rest) =
      ⟨rest[0]?, rest[1]?.map canonical, rest[2]?, rest[3]?.map canonical, some version⟩ := by
  have versioned : (version :: rest).head?.filter isVersionTag = some version := by simp [tag]
  simp only [ofSegments, versioned, Option.isSome_some, ↓reduceIte, List.drop_succ_cons,
    List.drop_zero]

theorem ofSegments_segments {decoder : TokenDecoder} {address : Address}
    (spelled : address.IsSpelled decoder) :
    ofSegments decoder.canonical address.segments = address := by
  obtain ⟨atCollection, atId, atSubcollection, atSubId⟩ := getElem?_parts spelled.collection_given
    spelled.collectionId_given spelled.subcollection_given
  have decodedId : address.collectionId.map decoder.canonical = address.collectionId := by
    cases given : address.collectionId with
    | none => rfl
    | some id => rw [Option.map_some, spelled.collectionId_decoded id given]
  have decodedSubId : address.subcollectionId.map decoder.canonical = address.subcollectionId := by
    cases given : address.subcollectionId with
    | none => rfl
    | some id => rw [Option.map_some, spelled.subcollectionId_decoded id given]
  rw [Address.segments_eq]
  cases versioned : address.version with
  | none =>
      rw [Option.toList_none, List.nil_append, ofSegments_untagged, atCollection, atId,
        atSubcollection, atSubId, decodedId, decodedSubId, ← versioned]
      rw [List.head?_eq_getElem?, atCollection]
      exact spelled.collection_no_tag versioned
  | some version =>
      rw [Option.toList_some, List.singleton_append,
        ofSegments_tagged _ (spelled.version_tag version versioned), atCollection, atId,
        atSubcollection, atSubId, decodedId, decodedSubId, ← versioned]

theorem tagged_or_untagged (segments : List String) :
    (∃ version rest, segments = version :: rest ∧ isVersionTag version = true) ∨
      ∀ segment ∈ segments.head?, isVersionTag segment = false := by
  cases segments with
  | nil => exact .inr (by simp)
  | cons segment rest =>
      cases tag : isVersionTag segment with
      | true => exact .inl ⟨segment, rest, rfl, tag⟩
      | false => exact .inr (by simpa using tag)

theorem taken_parts (canonical : String → String) (parts : List String) :
    List.Forall₂ (fun segment part => part = segment ∨ part = canonical segment) (parts.take 4)
      ([parts[0]?, parts[1]?.map canonical, parts[2]?, parts[3]?.map canonical].filterMap id) := by
  match parts with
  | [] => exact .nil
  | [a] => simp
  | [a, b] => simp
  | [a, b, c] => simp
  | a :: b :: c :: d :: rest => simp

theorem taken_segments_ofSegments (canonical : String → String) (segments : List String) :
    ∃ taken, taken <+: segments ∧
      List.Forall₂ (fun segment part => part = segment ∨ part = canonical segment) taken
        (ofSegments canonical segments).segments := by
  rcases tagged_or_untagged segments with ⟨version, rest, rfl, tag⟩ | noTag
  · refine ⟨version :: rest.take 4, ?_, ?_⟩
    · exact (List.prefix_cons_inj version).mpr (List.take_prefix 4 rest)
    · rw [ofSegments_tagged canonical tag, Address.segments_eq]
      exact .cons (.inl rfl) (taken_parts canonical rest)
  · refine ⟨segments.take 4, List.take_prefix 4 segments, ?_⟩
    rw [ofSegments_untagged canonical noTag, Address.segments_eq]
    exact taken_parts canonical segments

theorem isPlainSegment_repr (id : Nat) : IsPlainSegment id.repr := by
  refine ⟨?_, fun c inside => ?_⟩
  · intro empty
    apply (Nat.toDigits_ne_nil : Nat.toDigits 10 id ≠ [])
    rw [← Nat.toList_repr, empty, String.toList_empty]
  · rw [Nat.toList_repr] at inside
    have digit := Nat.isDigit_of_mem_toDigits (by omega) (by omega) inside
    refine ⟨?_, ?_, ?_⟩ <;> rintro rfl <;> cases digit

theorem isPlainSegment_canonical {segment : String} (plain : IsPlainSegment segment) :
    IsPlainSegment (TokenDecoder.compressed.canonical segment) := by
  rcases TokenDecoder.canonical_cases segment with same | ⟨id, decoded⟩
  · rw [same]
    exact plain
  · rw [decoded]
    exact isPlainSegment_repr id

theorem isSpelled_parts {version : Option String} {parts : List String}
    (tag : ∀ tagged ∈ version, isVersionTag tagged = true)
    (noTag : version = none → ∀ segment ∈ parts.head?, isVersionTag segment = false)
    (plain : ∀ segment ∈ version.toList ++ parts, IsPlainSegment segment) :
    Address.IsSpelled .compressed
      ⟨parts[0]?, parts[1]?.map TokenDecoder.compressed.canonical, parts[2]?,
        parts[3]?.map TokenDecoder.compressed.canonical, version⟩ where
  collection_given := by
    simp only [Option.isSome_map, isSome_getElem?]
    omega
  collectionId_given := by
    simp only [Option.isSome_map, isSome_getElem?]
    omega
  subcollection_given := by
    simp only [Option.isSome_map, isSome_getElem?]
    omega
  version_tag := tag
  collection_no_tag := by
    intro unversioned
    rw [← List.head?_eq_getElem?]
    exact noTag unversioned
  segment_plain := by
    intro segment listed
    rw [Address.segments_eq, List.mem_append] at listed
    rcases listed with inVersion | inParts
    · exact plain segment (List.mem_append_left _ inVersion)
    · obtain ⟨source, taken, spelling⟩ := Stage.exists_of_mem_right (taken_parts _ parts) inParts
      have solid := plain source (List.mem_append_right _ (List.mem_of_mem_take taken))
      rcases spelling with rfl | rfl
      · exact solid
      · exact isPlainSegment_canonical solid
  collectionId_decoded := by
    intro id given
    obtain ⟨token, -, rfl⟩ := Option.map_eq_some_iff.mp given
    exact TokenDecoder.canonical_canonical token
  subcollectionId_decoded := by
    intro id given
    obtain ⟨token, -, rfl⟩ := Option.map_eq_some_iff.mp given
    exact TokenDecoder.canonical_canonical token

theorem isSpelled_ofSegments {segments : List String}
    (plain : ∀ segment ∈ segments, IsPlainSegment segment) :
    (ofSegments TokenDecoder.compressed.canonical segments).IsSpelled .compressed := by
  rcases tagged_or_untagged segments with ⟨version, rest, rfl, tag⟩ | noTag
  · rw [ofSegments_tagged _ tag]
    apply isSpelled_parts
    · intro tagged same
      rw [← Option.mem_some.mp same]
      exact tag
    · intro unversioned
      cases unversioned
    · exact plain
  · rw [ofSegments_untagged _ noTag]
    apply isSpelled_parts
    · intro tagged same
      cases same
    · intro _
      exact noTag
    · exact plain

end Locator

end ResourceRouter
