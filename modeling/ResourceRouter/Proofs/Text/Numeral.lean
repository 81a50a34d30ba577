import Mathlib.Data.List.Basic
import ResourceRouter.Text.Numeral

set_option autoImplicit false

/-!
Numerals and their values. The decimal digits of a number are a numeral with that value, and no
number but zero starts with a zero.
-/

namespace ResourceRouter.Text

theorem isNumeral_iff {text : List Char} :
    isNumeral text = true ↔ text ≠ [] ∧ ∀ c ∈ text, c.isDigit = true := by
  simp [isNumeral]

theorem natural?_eq_some_iff {text : List Char} {n : Nat} :
    natural? text = some n ↔ isNumeral text = true ∧ Nat.ofDigitChars 10 text 0 = n := by
  simp [natural?]

theorem word?_eq_some_iff {n word : Nat} : word? n = some word ↔ n < wordSize ∧ n = word := by
  simp [word?]

theorem isNumeral_toDigits (n : Nat) : isNumeral (Nat.toDigits 10 n) = true := by
  refine isNumeral_iff.mpr ⟨Nat.toDigits_ne_nil, fun c inside => ?_⟩
  exact Nat.isDigit_of_mem_toDigits (by omega) (by omega) inside

theorem head?_toDigits_eq_zero_iff (n : Nat) : (Nat.toDigits 10 n).head? = some '0' ↔ n = 0 := by
  induction n using Nat.strongRecOn with
  | ind n ih =>
      by_cases single : n < 10
      · rw [Nat.toDigits_of_lt_base single, List.head?_singleton, Option.some.injEq]
        constructor
        · intro zero
          have code := Nat.toNat_digitChar_of_lt_ten single
          rw [zero] at code
          change 48 = 48 + n at code
          omega
        · rintro rfl
          rfl
      · -- Further digits are written behind those of a smaller number that is not zero.
        have shorter := ih (n / 10) (by omega)
        rw [Nat.toDigits_of_base_le (by omega) (by omega),
          List.head?_append_of_ne_nil _ Nat.toDigits_ne_nil, shorter]
        omega

end ResourceRouter.Text
