import ResourceRouter.Proofs.Address.RecordId
import ResourceRouter.Proofs.Text.Numeral

set_option autoImplicit false

/-!
Tokens and the ids they stand for. A token is decoded exactly where it is two numerals around the
letter and no number on the way exceeds 64 bits; every other text stands for itself. So the token of
an id leads back to that id, over the whole range of 64 bits.
-/

namespace ResourceRouter

namespace RecordId

section Parts

variable {token region short : List Char}

/-- The two parts are the runs of digits, of any script, around the only letter. -/
theorem parts?_eq_some_iff :
    parts? token = some (region, short) ↔
      token = region ++ 'r' :: short ∧ region ≠ [] ∧ short ≠ [] ∧
        (∀ c ∈ region, Text.isDecimalDigit c = true) ∧
        ∀ c ∈ short, Text.isDecimalDigit c = true := by
  have letter : Text.isDecimalDigit 'r' = false := by decide
  constructor
  · intro found
    have split := List.takeWhile_append_dropWhile (p := Text.isDecimalDigit) (l := token)
    have run : ∀ c ∈ token.takeWhile Text.isDecimalDigit, Text.isDecimalDigit c = true :=
      fun c inside => List.mem_takeWhile_imp inside
    dsimp only [parts?] at found
    generalize token.takeWhile Text.isDecimalDigit = front at found split run
    split at found
    · next back rest =>
        rw [rest] at split
        split at found
        · next formed =>
            obtain ⟨rfl, rfl⟩ := Prod.mk.inj (Option.some.inj found)
            simp only [Bool.and_eq_true, Bool.not_eq_true', List.isEmpty_eq_false_iff,
              List.all_eq_true] at formed
            exact ⟨split.symm, formed.1.1, formed.1.2, run, formed.2⟩
        · cases found
    · cases found
  · rintro ⟨rfl, regionGiven, shortGiven, regionRun, shortRun⟩
    have stops : ∀ c ∈ ('r' :: short).head?, Text.isDecimalDigit c = false := by
      rintro c ⟨⟩
      exact letter
    have front := Text.takeWhile_append_eq regionRun stops
    have back := Text.dropWhile_append_eq regionRun stops
    have formed : (!region.isEmpty && !short.isEmpty && short.all Text.isDecimalDigit) = true := by
      simpa [regionGiven, shortGiven] using shortRun
    simp only [parts?, front, back, formed, ↓reduceIte]

/-- Each character of a token stands in one of its parts, or is the letter between them. -/
theorem mem_token {isPart : Char → Bool} (inRegion : ∀ c ∈ region, isPart c = true)
    (inShort : ∀ c ∈ short, isPart c = true) :
    ∀ c ∈ region ++ 'r' :: short, isPart c = true ∨ c = 'r' := by
  intro c inside
  rcases List.mem_append.mp inside with before | after
  · exact .inl (inRegion c before)
  · rcases List.mem_cons.mp after with letter | behind
    · exact .inr letter
    · exact .inl (inShort c behind)

end Parts

/-- The token is two numerals around the letter, each with any number of zeros in front. -/
structure IsToken (token region short : List Char) : Prop where
  written : token = region ++ 'r' :: short
  region_numeral : Text.isNumeral region = true
  short_numeral : Text.isNumeral short = true

/-- No part of an id, no product and no sum on the way to it exceeds 64 bits. -/
structure Fits (region short : Nat) : Prop where
  region_fits : region < Text.wordSize
  short_fits : short < Text.wordSize
  base_fits : region * regionSize < Text.wordSize
  id_fits : region * regionSize + short < Text.wordSize

/-- What fits as a whole fits in each part. -/
theorem fits_iff {region short : Nat} :
    Fits region short ↔ region * regionSize + short < Text.wordSize := by
  constructor
  · exact Fits.id_fits
  · intro whole
    have base : region * regionSize < Text.wordSize := by omega
    have part : region ≤ region * regionSize := Nat.le_mul_of_pos_right region (by decide)
    exact ⟨by omega, by omega, base, whole⟩

/-- The value of a numeral. -/
def value (numeral : List Char) : Nat := Nat.ofDigitChars 10 numeral 0

theorem word?_eq_some_iff {digits : List Char} {n : Nat} :
    word? digits = some n ↔ Text.isNumeral digits = true ∧ value digits = n ∧ n < Text.wordSize := by
  rw [word?, Option.bind_eq_some_iff]
  simp only [Text.natural?_eq_some_iff, Text.word?_eq_some_iff, value]
  constructor
  · rintro ⟨_, ⟨numeral, rfl⟩, fits, rfl⟩
    exact ⟨numeral, rfl, fits⟩
  · rintro ⟨numeral, rfl, fits⟩
    exact ⟨_, ⟨numeral, rfl⟩, fits, rfl⟩

section Token

variable {token region short : List Char} (given : IsToken token region short)
include given

theorem IsToken.parts?_eq : parts? token = some (region, short) := by
  obtain ⟨regionGiven, regionDigits⟩ := Text.isNumeral_iff.mp given.region_numeral
  obtain ⟨shortGiven, shortDigits⟩ := Text.isNumeral_iff.mp given.short_numeral
  refine parts?_eq_some_iff.mpr ⟨given.written, regionGiven, shortGiven, ?_, ?_⟩
  · exact fun c inside => Text.isDecimalDigit_of_isDigit (regionDigits c inside)
  · exact fun c inside => Text.isDecimalDigit_of_isDigit (shortDigits c inside)

theorem IsToken.unique {otherRegion otherShort : List Char}
    (other : IsToken token otherRegion otherShort) : otherRegion = region ∧ otherShort = short := by
  have same := other.parts?_eq
  rw [given.parts?_eq] at same
  exact Prod.mk.inj (Option.some.inj same).symm

end Token

/-- A token stands for an id exactly if it is written in ASCII digits and nothing exceeds 64 bits. -/
theorem expand?_eq_some_iff {token : List Char} {id : Nat} :
    expand? token = some id ↔ ∃ region short, IsToken token region short ∧
      Fits (value region) (value short) ∧ value region * regionSize + value short = id := by
  unfold expand?
  simp only [bind, Option.bind_eq_some_iff, word?_eq_some_iff, Text.word?_eq_some_iff]
  constructor
  · rintro ⟨⟨region, short⟩, found, _, ⟨regionNumeral, rfl, regionFits⟩, _,
      ⟨shortNumeral, rfl, shortFits⟩, _, ⟨baseFits, rfl⟩, idFits, rfl⟩
    have written := (parts?_eq_some_iff.mp found).1
    exact ⟨region, short, ⟨written, regionNumeral, shortNumeral⟩,
      ⟨regionFits, shortFits, baseFits, idFits⟩, rfl⟩
  · rintro ⟨region, short, written, fits, rfl⟩
    exact ⟨(region, short), written.parts?_eq, _, ⟨written.region_numeral, rfl, fits.region_fits⟩,
      _, ⟨written.short_numeral, rfl, fits.short_fits⟩, _, ⟨fits.base_fits, rfl⟩, fits.id_fits, rfl⟩

/-- A token of numerals that does not fit stands for no id. -/
theorem expand?_eq_none {token region short : List Char} (given : IsToken token region short)
    (exceeds : ¬ Fits (value region) (value short)) : expand? token = none := by
  apply Option.eq_none_iff_forall_ne_some.mpr
  intro id found
  obtain ⟨otherRegion, otherShort, other, fits, -⟩ := expand?_eq_some_iff.mp found
  obtain ⟨rfl, rfl⟩ := given.unique other
  exact exceeds fits

theorem isNumeric_repr (id : Nat) : isNumeric id.repr = true := by
  rw [isNumeric, Nat.toList_repr]
  exact Text.isNumeral_toDigits id

theorem isNumeric_of_isToken {token : String} {region short : List Char}
    (given : IsToken token.toList region short) : isNumeric token = false := by
  apply Bool.eq_false_iff.mpr
  intro numeric
  have digits := (Text.isNumeral_iff.mp numeric).2
  have letter : 'r' ∈ token.toList := by simp [given.written]
  exact absurd (digits 'r' letter) (by decide)

theorem isToken_compress (id : UInt64) :
    IsToken (compress id).toList (Nat.toDigits 10 (id.toNat / regionSize))
      (Nat.toDigits 10 (id.toNat % regionSize)) where
  written := String.toList_ofList
  region_numeral := Text.isNumeral_toDigits _
  short_numeral := Text.isNumeral_toDigits _

theorem value_toDigits (n : Nat) : value (Nat.toDigits 10 n) = n := Nat.ofDigitChars_ten_toDigits

/-- The token of an id stands for that id: its parts add up to the id again, so nothing exceeds 64
bits on the way. -/
theorem expand?_compress (id : UInt64) : expand? (compress id).toList = some id.toNat := by
  have whole : id.toNat / regionSize * regionSize + id.toNat % regionSize = id.toNat :=
    Nat.div_add_mod' id.toNat regionSize
  refine expand?_eq_some_iff.mpr ⟨_, _, isToken_compress id, ?_, ?_⟩
  · rw [value_toDigits, value_toDigits, fits_iff, whole]
    exact id.toNat_lt
  · rw [value_toDigits, value_toDigits, whole]

end RecordId

namespace TokenDecoder

variable {token : String}

theorem recognises_of_isToken {region short : List Char}
    (given : RecordId.IsToken token.toList region short) : compressed.recognises token = true := by
  simp only [compressed, given.parts?_eq, Option.isSome_some]

theorem decode_of_expand? {id : Nat} (found : RecordId.expand? token.toList = some id) :
    compressed.decode token = id.repr := by
  simp only [compressed, found, Nat.repr_eq_ofList_toDigits]

theorem decode_of_expand?_eq_none (unread : RecordId.expand? token.toList = none) :
    compressed.decode token = token := by
  simp only [compressed, unread]

theorem canonical_of_recognises (known : compressed.recognises token = true) :
    compressed.canonical token = compressed.decode token := by
  simp only [canonical, known, ↓reduceIte]

/-- Every id of 64 bits has a token that leads back to it and to no other id, and its decimal text
leads to it as it is. -/
theorem decode_compress (id : UInt64) :
    compressed.recognises (RecordId.compress id) = true ∧
      RecordId.expand? (RecordId.compress id).toList = some id.toNat ∧
      compressed.decode (RecordId.compress id) = id.toNat.repr ∧
      compressed.canonical (RecordId.compress id) = id.toNat.repr ∧
      compressed.canonical id.toNat.repr = id.toNat.repr ∧
      ∀ other, RecordId.compress other = RecordId.compress id ↔ other = id := by
  have known := recognises_of_isToken (RecordId.isToken_compress id)
  have decoded := decode_of_expand? (RecordId.expand?_compress id)
  refine ⟨known, RecordId.expand?_compress id, decoded, ?_, canonical_repr id.toNat, ?_⟩
  · rw [canonical_of_recognises known, decoded]
  · intro other
    constructor
    · intro same
      have expanded := RecordId.expand?_compress other
      rw [same, RecordId.expand?_compress id] at expanded
      exact UInt64.toNat_inj.mp (Option.some.inj expanded).symm
    · rintro rfl
      rfl

/-- A token is decoded exactly if it is two numerals around the letter whose id fits 64 bits, and then
to the decimal text of the id, without zeros in front. Any other text stands for itself, decoding
again changes nothing, and a token that exceeds 64 bits passes for no id. -/
theorem decode_exact (token : String) :
    (∀ region short, RecordId.IsToken token.toList region short →
      RecordId.Fits (RecordId.value region) (RecordId.value short) →
      let id := RecordId.value region * RecordId.regionSize + RecordId.value short
      compressed.decode token = id.repr ∧
        ((compressed.decode token).toList.head? = some '0' ↔ id = 0)) ∧
    ((¬ ∃ region short, RecordId.IsToken token.toList region short ∧
        RecordId.Fits (RecordId.value region) (RecordId.value short)) →
      compressed.decode token = token) ∧
    compressed.canonical (compressed.canonical token) = compressed.canonical token ∧
    ∀ region short, RecordId.IsToken token.toList region short →
      (RecordId.isNumeric (compressed.canonical token) = true ↔
        RecordId.Fits (RecordId.value region) (RecordId.value short)) := by
  have decodes {region short : List Char} (given : RecordId.IsToken token.toList region short)
      (fits : RecordId.Fits (RecordId.value region) (RecordId.value short)) :
      compressed.decode token =
        (RecordId.value region * RecordId.regionSize + RecordId.value short).repr :=
    decode_of_expand? (RecordId.expand?_eq_some_iff.mpr ⟨region, short, given, fits, rfl⟩)
  refine ⟨fun region short given fits => ?_, fun other => ?_, canonical_canonical token,
    fun region short given => ?_⟩
  · intro id
    have decoded : compressed.decode token = id.repr := decodes given fits
    refine ⟨decoded, ?_⟩
    rw [decoded, Nat.toList_repr]
    exact Text.head?_toDigits_eq_zero_iff id
  · apply decode_of_expand?_eq_none
    apply Option.eq_none_iff_forall_ne_some.mpr
    intro id found
    obtain ⟨region, short, given, fits, -⟩ := RecordId.expand?_eq_some_iff.mp found
    exact other ⟨region, short, given, fits⟩
  · rw [canonical_of_recognises (recognises_of_isToken given)]
    constructor
    · intro numeric
      by_contra exceeds
      rw [decode_of_expand?_eq_none (RecordId.expand?_eq_none given exceeds),
        RecordId.isNumeric_of_isToken given] at numeric
      cases numeric
    · intro fits
      rw [decodes given fits]
      exact RecordId.isNumeric_repr _

/-- The token of the largest id is decoded, and the one after it is not. -/
theorem decode_exact_largest :
    RecordId.IsToken "018446744r0073709551615".toList "018446744".toList "0073709551615".toList ∧
      RecordId.Fits 18446744 73709551615 ∧
      compressed.decode "018446744r0073709551615" = "18446744073709551615" ∧
      ¬ RecordId.Fits 18446744 73709551616 ∧
      RecordId.isNumeric (compressed.canonical "18446744r73709551616") = false := by
  have largest : RecordId.IsToken "018446744r0073709551615".toList "018446744".toList
      "0073709551615".toList := ⟨by decide, by decide, by decide⟩
  have next : RecordId.IsToken "18446744r73709551616".toList "18446744".toList
      "73709551616".toList := ⟨by decide, by decide, by decide⟩
  have region : RecordId.value "018446744".toList = 18446744 := by decide
  have short : RecordId.value "0073709551615".toList = 73709551615 := by decide
  have fits : RecordId.Fits 18446744 73709551615 := RecordId.fits_iff.mpr (by decide)
  have exceeds : ¬ RecordId.Fits 18446744 73709551616 := fun other => absurd other.id_fits (by decide)
  refine ⟨largest, fits, ?_, exceeds, ?_⟩
  · rw [← region, ← short] at fits
    exact ((decode_exact _).1 _ _ largest fits).1.trans (by decide +kernel)
  · apply Bool.eq_false_iff.mpr
    exact fun numeric => exceeds (((decode_exact _).2.2.2 _ _ next).mp numeric)

end TokenDecoder

end ResourceRouter
