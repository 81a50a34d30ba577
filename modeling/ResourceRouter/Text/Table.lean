import ResourceRouter.Text.Percent

set_option autoImplicit false

/-!
Tables of characters. A table is written as a text of entries between blanks, with code points in
hexadecimal figures: `B5=3BC` says what belongs to one character, `300-314=E6` what belongs to each
of a range, and after `>`, as in `391-3A1>3B1`, the value moves along with the character. In a range
with a colon, as in `460:480>461`, every second character counts, and an entry without values, as in
`903-903`, only tells that the characters are in the table.
-/

namespace ResourceRouter.Text

/-- What a table says of the characters in a range. -/
structure TableEntry where
  first : Nat
  last : Nat
  /-- Every character of the range, or every second one. -/
  stride : Nat
  /-- What belongs to the first character. -/
  values : List Nat
  /-- The values move along with the character. -/
  moves : Bool
deriving DecidableEq, Repr

abbrev Table := List TableEntry

/-- The number of a hexadecimal text. -/
def hexadecimal (digits : List Char) : Nat :=
  digits.foldl (fun n c => 16 * n + (hexDigit? c).getD 0) 0

/-- The entry that a word of a table's text writes. -/
def TableEntry.ofWord (word : List Char) : TableEntry :=
  let isAssignment (c : Char) : Bool := c == '=' || c == '>'
  let isRange (c : Char) : Bool := c == '-' || c == ':'
  let range := word.takeWhile (!isAssignment ·)
  let assigned := word.dropWhile (!isAssignment ·)
  let first := hexadecimal (range.takeWhile (!isRange ·))
  let upTo := range.dropWhile (!isRange ·)
  { first := first
    last := if upTo.isEmpty then first else hexadecimal (upTo.drop 1)
    stride := if upTo.head? == some ':' then 2 else 1
    values := if assigned.isEmpty then [] else ((assigned.drop 1).splitOn '.').map hexadecimal
    moves := assigned.head? == some '>' }

/-- The table that a text writes. -/
def Table.ofText (text : String) : Table :=
  ((text.toList.splitOnP fun c => c == ' ' || c == '\n').filter (!·.isEmpty)).map TableEntry.ofWord

/-- The entry speaks of the character with this code point. -/
def TableEntry.covers (entry : TableEntry) (n : Nat) : Bool :=
  entry.first ≤ n && n ≤ entry.last && (n - entry.first) % entry.stride == 0

/-- The character is in the table. -/
def Table.contains (table : Table) (c : Char) : Bool := table.any (·.covers c.toNat)

/-- What belongs to a character of the table. -/
def Table.values? (table : Table) (c : Char) : Option (List Nat) :=
  (table.find? (·.covers c.toNat)).map fun entry =>
    if entry.moves then entry.values.map (· + (c.toNat - entry.first)) else entry.values

/-- The code point that the table gives these values, among its entries for single characters. -/
def Table.keyOf? (table : Table) (values : List Char) : Option Nat :=
  (table.find? (·.values == values.map Char.toNat)).map (·.first)

end ResourceRouter.Text
