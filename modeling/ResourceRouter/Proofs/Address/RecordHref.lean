import ResourceRouter.Proofs.Address.RoundTrip
import ResourceRouter.Proofs.Address.Tokens
import ResourceRouter.Proofs.Text.Ascii

set_option autoImplicit false

/-!
Hrefs of records. A record is written by its id in decimal or as a token, and an href with either one,
with blanks around it or without, is read as the address of the record with that id.
-/

namespace ResourceRouter

/-- The text spells an id: in decimal, or as a token that decodes to it. -/
def RecordId.IsSpelling (id : Nat) (token : String) : Prop :=
  token = id.repr ∨
    TokenDecoder.compressed.recognises token = true ∧
      TokenDecoder.compressed.decode token = id.repr

/-- The text is another one with blanks around it. -/
def Text.IsPadded (inner text : String) : Prop :=
  ∃ before after, (∀ c ∈ before, isBlank c = true) ∧ (∀ c ∈ after, isBlank c = true) ∧
    text.toList = before ++ (inner.toList ++ after)

theorem Text.IsPadded.trim_eq {inner text : String} (padded : IsPadded inner text) :
    trim text.toList = trim inner.toList := by
  obtain ⟨before, after, blankBefore, blankAfter, written⟩ := padded
  rw [written, trim_blanks_append blankBefore, trim_append_blanks blankAfter]

theorem Address.mem_segments {address : Address} {segment : String} :
    segment ∈ address.segments ↔ address.version = some segment ∨
      address.collection = some segment ∨ address.collectionId = some segment ∨
        address.subcollection = some segment ∨ address.subcollectionId = some segment := by
  simp [segments, eq_comm]

/-- The segment is plain that a token is decoded from. -/
theorem Locator.isPlainSegment_of_canonical {token : String}
    (plain : IsPlainSegment (TokenDecoder.compressed.canonical token)) : IsPlainSegment token := by
  cases known : TokenDecoder.compressed.recognises token with
  | false => simpa [TokenDecoder.canonical, known] using plain
  | true =>
      obtain ⟨⟨region, short⟩, found⟩ := Option.isSome_iff_exists.mp known
      obtain ⟨written, -, -, regionDigits, shortDigits⟩ := RecordId.parts?_eq_some_iff.mp found
      refine ⟨?_, fun c inside => ?_⟩
      · rintro rfl
        simp at written
      · rw [written] at inside
        rcases RecordId.mem_token regionDigits shortDigits c inside with digit | rfl
        · exact ⟨Text.ne_of_test digit (by decide), Text.ne_of_test digit (by decide),
            Text.ne_of_test digit (by decide)⟩
        · decide

namespace RecordId.IsSpelling

variable {id : Nat} {token : String} (spelled : IsSpelling id token)
include spelled

theorem canonical_eq : TokenDecoder.compressed.canonical token = id.repr := by
  rcases spelled with rfl | ⟨known, decoded⟩
  · exact TokenDecoder.canonical_repr id
  · rw [TokenDecoder.canonical_of_recognises known, decoded]

/-- A spelling has no characters but ASCII digits and the letter of a token. -/
theorem digit_or_letter : ∀ c ∈ token.toList, c.isDigit = true ∨ c = 'r' := by
  have decimal : ∀ c ∈ id.repr.toList, c.isDigit = true ∨ c = 'r' :=
    fun c inside => .inl ((Text.isNumeral_iff.mp (isNumeric_repr id)).2 c inside)
  rcases spelled with rfl | ⟨-, decoded⟩
  · exact decimal
  · cases found : expand? token.toList with
    | none =>
        rw [TokenDecoder.decode_of_expand?_eq_none found] at decoded
        rw [decoded]
        exact decimal
    | some other =>
        obtain ⟨region, short, written, -, -⟩ := expand?_eq_some_iff.mp found
        rw [written.written]
        exact mem_token (Text.isNumeral_iff.mp written.region_numeral).2
          (Text.isNumeral_iff.mp written.short_numeral).2

theorem isBlank_eq_false : ∀ c ∈ token.toList, Text.isBlank c = false := by
  intro c inside
  rcases spelled.digit_or_letter c inside with digit | rfl
  · exact Text.isBlank_of_isDigit digit
  · decide

theorem isPlainSegment : IsPlainSegment token := by
  apply Locator.isPlainSegment_of_canonical
  rw [spelled.canonical_eq]
  exact Locator.isPlainSegment_repr id

end RecordId.IsSpelling

namespace Locator

section Hrefs

variable (root : String)
  (plainRoot : ∀ c ∈ (under root .compressed).root.toList, c ≠ '?' ∧ c ≠ '#')
include plainRoot

/-- An href whose last part is a spelling is read part by part, with blanks around it or without. -/
theorem parse_of_padded {address : Address} {first : List String} {token : String}
    (parts : address.segments = first ++ [token]) {id : Nat} {text : String}
    (plain : ∀ segment ∈ first, IsPlainSegment segment) (spelled : RecordId.IsSpelling id token)
    (padded : Text.IsPadded ((under root .compressed).href address) text) :
    (under root .compressed).parse text =
      ofSegments TokenDecoder.compressed.canonical (first ++ [token]) := by
  have solid : Text.dropTrailing Text.isBlank token.toList = token.toList := by
    apply Text.dropTrailing_eq_self_iff.mpr
    exact fun last ends => spelled.isBlank_eq_false last (List.mem_of_getLast? ends)
  apply parse_of_segments root .compressed _ plainRoot
  · rw [padded.trim_eq, trim_href_of_segments root .compressed parts, solid]
    simp
  · intro segment listed
    rcases List.mem_append.mp listed with inFirst | last
    · exact plain segment inFirst
    · rw [List.mem_singleton.mp last]
      exact spelled.isPlainSegment

theorem parse_record {name : String} (plain : IsPlainSegment name)
    (noTag : isVersionTag name = false) {id : Nat} {token text : String}
    (spelled : RecordId.IsSpelling id token)
    (padded : Text.IsPadded ((under root .compressed).href (.ofResource name token)) text) :
    (under root .compressed).parse text = .ofResource name id.repr := by
  have parts : (Address.ofResource name token).segments = [name] ++ [token] := rfl
  rw [parse_of_padded root plainRoot parts (by simpa using plain) spelled padded, List.singleton_append,
    ofSegments_untagged _ (by simpa using noTag), ← spelled.canonical_eq]
  rfl

/-- Where the href of a subcollection leads to an address below a record, its parts are those of the
address, and its first part is no version tag. -/
theorem canonical_of_parse {address : Address} {collection parent name : String}
    (through : address.collection = some collection)
    (below : address.collectionId = some parent ∨
      address.collectionId = some (TokenDecoder.compressed.canonical parent))
    (nested : address.subcollection = some name)
    (leads : (under root .compressed).parse ((under root .compressed).href
      ((Address.ofResource collection parent).withSubcollection name none)) = address) :
    IsPlainSegment collection ∧ IsPlainSegment parent ∧ IsPlainSegment name ∧
      isVersionTag collection = false ∧
      address.collectionId = some (TokenDecoder.compressed.canonical parent) := by
  have spelled := isSpelled_parse root ((under root .compressed).href
    ((Address.ofResource collection parent).withSubcollection name none))
  rw [leads] at spelled
  have below : address.collectionId = some (TokenDecoder.compressed.canonical parent) := by
    rcases below with same | decoded
    · rw [same, spelled.collectionId_decoded parent same]
    · exact decoded
  have plainCollection : IsPlainSegment collection :=
    spelled.segment_plain _ (Address.mem_segments.mpr (.inr (.inl through)))
  have plainParent : IsPlainSegment parent := isPlainSegment_of_canonical
    (spelled.segment_plain _ (Address.mem_segments.mpr (.inr (.inr (.inl below)))))
  have plainName : IsPlainSegment name :=
    spelled.segment_plain _ (Address.mem_segments.mpr (.inr (.inr (.inr (.inl nested)))))
  refine ⟨plainCollection, plainParent, plainName, ?_, below⟩
  -- A version tag would take the place of the collection, and no part be left for the name.
  have parts : ((Address.ofResource collection parent).withSubcollection name none).segments =
      [collection, parent] ++ [name] := rfl
  have plain : ∀ segment ∈ [collection, parent] ++ [name], IsPlainSegment segment := by
    simp [plainCollection, plainParent, plainName]
  have read := parse_href_of_segments root .compressed (by rwa [parts]) plainRoot parts
  rw [leads] at read
  apply Bool.eq_false_iff.mpr
  intro tag
  rw [List.cons_append, ofSegments_tagged _ tag] at read
  have solid : '/' ∉ Text.dropTrailing Text.isBlank name.toList := fun slash =>
    (plainName.2 '/' ((Text.dropTrailing_prefix name.toList).subset slash)).1 rfl
  rw [read] at nested
  rcases pieces_of_no_slash solid with empty | single
  · simp [empty] at nested
  · simp [single] at nested

theorem parse_member {address : Address} {collection parent name : String}
    (through : address.collection = some collection)
    (below : address.collectionId = some parent ∨
      address.collectionId = some (TokenDecoder.compressed.canonical parent))
    (nested : address.subcollection = some name)
    (leads : (under root .compressed).parse ((under root .compressed).href
      ((Address.ofResource collection parent).withSubcollection name none)) = address)
    {id : Nat} {token text : String} (spelled : RecordId.IsSpelling id token)
    (padded : Text.IsPadded ((under root .compressed).href
      ((Address.ofResource collection parent).withSubcollection name (some token))) text) :
    ∃ record, address.collectionId = some record ∧ (under root .compressed).parse text =
      (Address.ofResource collection record).withSubcollection name (some id.repr) := by
  obtain ⟨plainCollection, plainParent, plainName, noTag, decoded⟩ :=
    canonical_of_parse root plainRoot through below nested leads
  have parts : ((Address.ofResource collection parent).withSubcollection name (some token)).segments =
      [collection, parent, name] ++ [token] := rfl
  refine ⟨_, decoded, ?_⟩
  rw [parse_of_padded root plainRoot parts (by simp [plainCollection, plainParent, plainName]) spelled
    padded, List.cons_append, ofSegments_untagged _ (by simpa using noTag), ← spelled.canonical_eq]
  rfl

end Hrefs

end Locator

end ResourceRouter
