import Mathlib
import ResourceRouter.Proofs.Text.Ascii
import ResourceRouter.Url.Host

set_option autoImplicit false

/-!
Hosts that are one word of small ASCII letters: a valid name, whatever the word.
-/

namespace ResourceRouter.Url

theorem percentDecode_eq {text : List Char} (literal : '%' ∉ text) :
    Text.percentDecode text = text.flatMap String.utf8EncodeChar := by
  induction text with
  | nil => rfl
  | cons c rest ih =>
      rw [List.mem_cons, not_or] at literal
      obtain ⟨first, later⟩ := literal
      rw [Text.percentDecode, ih later, List.flatMap_cons]
      rintro high low other rfl
      exact absurd rfl first

theorem fromUTF8?_percentDecode {text : List Char} (literal : '%' ∉ text) :
    String.fromUTF8? (ByteArray.mk (Text.percentDecode text).toArray) =
      some (String.ofList text) := by
  have bytes : ByteArray.mk (Text.percentDecode text).toArray = text.utf8Encode := by
    apply ByteArray.ext
    rw [percentDecode_eq literal, List.utf8Encode, List.data_toByteArray]
  have valid : text.utf8Encode.IsValidUTF8 := .intro text rfl
  rw [bytes, String.fromUTF8?, dif_pos valid]
  rfl

section Name

variable {text : List Char} (ascii : ∀ c ∈ text, c.toNat < 0x80)
include ascii

theorem foldName?_ascii (small : ∀ c ∈ text, c.toLower = c) : foldName? text = some text := by
  have noneRefused : text.any isRefusedLetter = false := by
    apply List.any_eq_false.mpr
    intro c inside
    have below := ascii c inside
    simp [isRefusedLetter, Nat.not_le.mpr below]
  have noneIgnored : text.filter (!isIgnoredLetter ·) = text := by
    apply List.filter_eq_self.mpr
    intro c inside
    have below := ascii c inside
    simp [isIgnoredLetter, Nat.not_le.mpr below]
  have folded : text.flatMap foldLetter = text := by
    calc text.flatMap foldLetter = text.flatMap ([·]) := by
          apply List.flatMap_congr
          intro c inside
          rw [foldLetter_ascii (ascii c inside), small c inside]
      _ = text := List.flatMap_singleton' text
  simp only [foldName?, noneRefused, Bool.false_eq_true, ↓reduceIte, noneIgnored, folded,
    Text.normalForm_ascii ascii]

theorem areJoinersInPlace_ascii (before : List Char) : areJoinersInPlace before text = true := by
  induction text generalizing before with
  | nil => rfl
  | cons c rest ih =>
      have below := ascii c List.mem_cons_self
      have later := ih (fun x inside => ascii x (List.mem_cons_of_mem c inside)) (c :: before)
      have noJoiner : isJoiner c = false := by
        simp only [isJoiner, Bool.or_eq_false_iff, beq_eq_false_iff_ne]
        constructor <;> rintro rfl <;> revert below <;> decide
      rw [areJoinersInPlace, noJoiner, later]
      rfl

theorem isReadableLabel_ascii : isReadableLabel text = true := by
  have noMark : text.head?.any Text.isMark = false := by
    cases text with
    | nil => rfl
    | cons c rest =>
        rw [List.head?_cons, Option.any_some, Text.isMark_ascii (ascii c List.mem_cons_self)]
  have plain : isAscii text = true := by
    apply List.all_eq_true.mpr
    intro c inside
    exact decide_eq_true (ascii c inside)
  rw [isReadableLabel, noMark, areJoinersInPlace_ascii ascii, plain]
  rfl

end Name

section Letters

theorem toNat_of_isLower {c : Char} (letter : c.isLower = true) :
    97 ≤ c.toNat ∧ c.toNat ≤ 122 := by
  simp only [Char.isLower, Bool.and_eq_true, decide_eq_true_eq, UInt32.le_iff_toNat_le] at letter
  exact letter

theorem isRefusedMark_of_isLower {c : Char} (letter : c.isLower = true) :
    isRefusedMark c = false := by
  have bounds := toNat_of_isLower letter
  have unlisted : c ∉ refusedMarks := by
    intro listed
    have noLetters : refusedMarks.all (!·.isLower) = true := by decide
    have noLetter := List.all_eq_true.mp noLetters c listed
    simp [letter] at noLetter
  have visible : ¬ c.toNat ≤ 0x20 := by omega
  have noDelete : c.toNat ≠ 0x7F := by omega
  simp [isRefusedMark, unlisted, visible, noDelete]

theorem turnsDirection_of_isLower {c : Char} (letter : c.isLower = true) :
    turnsDirection c = false := by
  have direction : Text.direction c = .leftToRight := by
    simp [Text.direction, Char.isAlpha, letter]
  rw [turnsDirection, direction]
  rfl

variable {host : List Char} (letters : ∀ c ∈ host, c.isLower = true)
include letters

theorem not_mem_of_letters {other : Char} (noLetter : other.isLower = false) : other ∉ host :=
  fun inside => Text.ne_of_test (letters other inside) noLetter rfl

theorem ascii_of_letters : ∀ c ∈ host, c.toNat < 0x80 := by
  intro c inside
  have bounds := toNat_of_isLower (letters c inside)
  omega

theorem hostName?_letters : hostName? host = some host := by
  have small : ∀ c ∈ host, c.toLower = c := by
    intro c inside
    exact Char.toLower_eq_of_not_isUpper (Char.not_isUpper_of_isLower (letters c inside))
  rw [hostName?, fromUTF8?_percentDecode (not_mem_of_letters letters (by decide)),
    Option.bind_some, String.toList_ofList]
  exact foldName?_ascii (ascii_of_letters letters) small

theorem splitOn_letters : host.splitOn '.' = [host] :=
  List.splitOn_eq_singleton (not_mem_of_letters letters (by decide))

theorem decodeLabel?_letters : decodeLabel? host = some host := by
  unfold decodeLabel?
  split
  · exact absurd (by simp) (not_mem_of_letters letters (rfl : '-'.isLower = false))
  · rfl

theorem areLabels_letters : areLabels [host] = true := by
  have readable := isReadableLabel_ascii (ascii_of_letters letters)
  have plain : host.any turnsDirection = false := by
    apply List.any_eq_false.mpr
    intro c inside
    rw [turnsDirection_of_isLower (letters c inside)]
    exact Bool.false_ne_true
  simp [areLabels, decodeLabel?_letters letters, readable, plain]

theorem endsInNumber_letters (given : host ≠ []) : endsInNumber host = false := by
  have parts : hostParts host = [host] := by
    simp [hostParts, splitOn_letters letters]
  cases host with
  | nil => exact absurd rfl given
  | cons c rest =>
      have letter : c.isLower = true := letters c List.mem_cons_self
      have noDigit : c.isDigit = false := by
        have bounds := toNat_of_isLower letter
        by_contra digit
        have most := (Char.isDigit_iff_toNat.mp (by simpa using digit)).2
        change c.toNat ≤ 57 at most
        omega
      have noNumber : ipv4Part? (c :: rest) = none := by
        have noZero : c ≠ '0' := Text.ne_of_test letter (by decide)
        simp [ipv4Part?, noZero, noDigit]
      rw [endsInNumber, parts]
      simp [Text.isNumeral, noDigit, noNumber]

/-- Small letters alone make a host. -/
theorem isHost_letters (given : host ≠ []) : isHost host = true := by
  have unbracketed : bracketed? host = none := by
    unfold bracketed?
    split
    · exact absurd (by simp) (not_mem_of_letters letters (rfl : '['.isLower = false))
    · rfl
  have named : host.isEmpty = false := by simpa using given
  have unmarked : host.any isRefusedMark = false := by
    apply List.any_eq_false.mpr
    intro c inside
    rw [isRefusedMark_of_isLower (letters c inside)]
    exact Bool.false_ne_true
  simp only [isHost, unbracketed, hostName?_letters letters, named, unmarked,
    splitOn_letters letters, areLabels_letters letters, endsInNumber_letters letters given]
  rfl

end Letters

end ResourceRouter.Url
