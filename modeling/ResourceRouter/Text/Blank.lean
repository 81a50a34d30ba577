set_option autoImplicit false

/-!
Blank characters and trimming. A blank is any character with the Unicode property White_Space, so
a no-break space is trimmed and a zero-width space is not.
-/

namespace ResourceRouter.Text

/-- The twenty-five characters with the Unicode property White_Space. -/
def isBlank (c : Char) : Bool :=
  let n := c.toNat
  (9 ≤ n && n ≤ 13) || n == 0x20 || n == 0x85 || n == 0xA0 || n == 0x1680 ||
    (0x2000 ≤ n && n ≤ 0x200A) || n == 0x2028 || n == 0x2029 || n == 0x202F || n == 0x205F ||
    n == 0x3000

/-- Removes the longest suffix whose members all satisfy the test. -/
def dropTrailing {α : Type} (test : α → Bool) (text : List α) : List α :=
  (text.reverse.dropWhile test).reverse

/-- Removes leading blanks. -/
def trimStart (text : List Char) : List Char := text.dropWhile isBlank

/-- Removes blanks on both sides. -/
def trim (text : List Char) : List Char := dropTrailing isBlank (trimStart text)

/-- The string without blanks on either side. -/
def trimmed (text : String) : String := String.ofList (trim text.toList)

/-- Nothing but blanks. -/
def isBlankText (text : String) : Bool := text.toList.all isBlank

end ResourceRouter.Text
