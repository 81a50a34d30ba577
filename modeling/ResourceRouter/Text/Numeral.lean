set_option autoImplicit false

/-!
Numbers written with the ASCII digits, read with a bound of 64 bits.
-/

namespace ResourceRouter.Text

/-- The number of values of an unsigned 64-bit word. -/
def wordSize : Nat := 0x10000000000000000

/-- The largest magnitude of a negative signed 64-bit word. -/
def signedLimit : Nat := 0x8000000000000000

/-- One or more ASCII digits and nothing else. -/
def isNumeral (text : List Char) : Bool := !text.isEmpty && text.all Char.isDigit

/-- The value of a numeral, of any length. -/
def natural? (text : List Char) : Option Nat :=
  if isNumeral text then some (Nat.ofDigitChars 10 text 0) else none

/-- The number itself if it fits an unsigned 64-bit word. -/
def word? (n : Nat) : Option Nat := if n < wordSize then some n else none

end ResourceRouter.Text
