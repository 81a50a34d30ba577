set_option autoImplicit false

/-!
Percent-encoding: a character outside the allowed set is written as its UTF-8 bytes, each as a
percent sign and two upper-case hexadecimal digits.
-/

namespace ResourceRouter.Text

/-- One byte as a percent sign and two upper-case hexadecimal digits. -/
def percentByte (byte : UInt8) : List Char :=
  ['%', (Nat.digitChar (byte.toNat / 16)).toUpper, (Nat.digitChar (byte.toNat % 16)).toUpper]

/-- A character written by its UTF-8 bytes. -/
def percentChar (c : Char) : List Char := (String.utf8EncodeChar c).flatMap percentByte

/-- Encodes the characters that satisfy the test and leaves the others as they are. -/
def percentEncode (test : Char → Bool) (text : List Char) : List Char :=
  text.flatMap fun c => if test c then percentChar c else [c]

/-- The value of a hexadecimal digit. -/
def hexDigit? (c : Char) : Option Nat :=
  if c.isDigit then some (c.toNat - 48)
  else if 'a' ≤ c && c ≤ 'f' then some (c.toNat - 87)
  else if 'A' ≤ c && c ≤ 'F' then some (c.toNat - 55)
  else none

/-- The bytes of a text, with every well-formed escape replaced by the byte it names. -/
def percentDecode : List Char → List UInt8
  | '%' :: high :: low :: rest =>
    match hexDigit? high, hexDigit? low with
    | some h, some l => UInt8.ofNat (16 * h + l) :: percentDecode rest
    | _, _ => 0x25 :: percentDecode (high :: low :: rest)
  | c :: rest => String.utf8EncodeChar c ++ percentDecode rest
  | [] => []

end ResourceRouter.Text
