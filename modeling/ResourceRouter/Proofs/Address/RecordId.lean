import Mathlib.Data.List.TakeWhile
import ResourceRouter.Address.RecordId
import ResourceRouter.Proofs.Text.Trimming

set_option autoImplicit false

/-!
What decoding a token gives: the token itself, or an id in ASCII digits. An id in digits is no
encoded token, so decoding twice is decoding once.
-/

namespace ResourceRouter

namespace Text

theorem isDecimalDigit_of_isDigit {c : Char} (digit : c.isDigit = true) :
    isDecimalDigit c = true := by
  have bounds : 48 ≤ c.toNat ∧ c.toNat ≤ 57 := Char.isDigit_iff_toNat.mp digit
  have covered : 0x30 ≤ c.toNat ∧ c.toNat < 0x30 + 10 := by omega
  apply List.any_eq_true.mpr
  exact ⟨0x30, by decide, by simpa using covered⟩

theorem isBlank_of_isDigit {c : Char} (digit : c.isDigit = true) : isBlank c = false := by
  have bounds : 48 ≤ c.toNat ∧ c.toNat ≤ 57 := Char.isDigit_iff_toNat.mp digit
  exact isBlank_of_visible (by omega) (by omega)

end Text

namespace TokenDecoder

theorem canonical_digits {digits : List Char} (each : ∀ c ∈ digits, c.isDigit = true) :
    compressed.canonical (String.ofList digits) = String.ofList digits := by
  have consumed : digits.dropWhile Text.isDecimalDigit = [] := by
    apply List.dropWhile_eq_nil_iff.mpr
    intro c inside
    exact Text.isDecimalDigit_of_isDigit (each c inside)
  have plain : compressed.recognises (String.ofList digits) = false := by
    simp [compressed, RecordId.parts?, String.toList_ofList, consumed]
  simp [canonical, plain]

theorem canonical_repr (id : Nat) : compressed.canonical id.repr = id.repr := by
  rw [Nat.repr_eq_ofList_toDigits]
  apply canonical_digits
  intro c inside
  exact Nat.isDigit_of_mem_toDigits (by omega) (by omega) inside

/-- A decoded token is the token itself or the decimal text of an id. -/
theorem canonical_cases (token : String) :
    compressed.canonical token = token ∨ ∃ id : Nat, compressed.canonical token = id.repr := by
  unfold canonical
  split
  · simp only [compressed]
    split
    · rename_i id _
      exact .inr ⟨id, Nat.repr_eq_ofList_toDigits.symm⟩
    · exact .inl rfl
  · exact .inl rfl

theorem canonical_canonical (token : String) :
    compressed.canonical (compressed.canonical token) = compressed.canonical token := by
  rcases canonical_cases token with same | ⟨id, decoded⟩
  · rw [same, same]
  · rw [decoded, canonical_repr]

theorem endsInBlank_canonical {token : String} (ends : Text.endsInBlank token.toList = false) :
    Text.endsInBlank (compressed.canonical token).toList = false := by
  rcases canonical_cases token with same | ⟨id, decoded⟩
  · rw [same]
    exact ends
  · rw [decoded, Nat.toList_repr, Text.endsInBlank_eq_false_iff, Text.dropTrailing_eq_self_iff]
    intro last final
    apply Text.isBlank_of_isDigit
    exact Nat.isDigit_of_mem_toDigits (by omega) (by omega) (List.mem_of_getLast? final)

end TokenDecoder

end ResourceRouter
