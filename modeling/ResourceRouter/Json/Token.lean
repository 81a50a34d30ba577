import ResourceRouter.Json.Number
import ResourceRouter.Text.Percent

set_option autoImplicit false

/-!
The tokens of a JSON text. Scanning fails at the first character that starts no token, so a text
with tokens has no stray characters.
-/

namespace ResourceRouter.Json

inductive Token where
  | openArray
  | closeArray
  | openObject
  | closeObject
  | comma
  | colon
  | text (value : String)
  | scalar (value : Json)
deriving BEq, Repr

/-- The value of four hexadecimal digits. -/
def codeUnit? (a b c d : Char) : Option Nat := do
  let a ← Text.hexDigit? a
  let b ← Text.hexDigit? b
  let c ← Text.hexDigit? c
  let d ← Text.hexDigit? d
  return ((a * 16 + b) * 16 + c) * 16 + d

/-- The character that a one-letter escape stands for. -/
def unescape? (c : Char) : Option Char :=
  if c = '"' then some '"'
  else if c = '\\' then some '\\'
  else if c = '/' then some '/'
  else if c = 'b' then some '\x08'
  else if c = 'f' then some '\x0c'
  else if c = 'n' then some '\n'
  else if c = 'r' then some '\r'
  else if c = 't' then some '\t'
  else none

/-- The rest of a string after its opening quote, and what follows the closing one. An escaped
surrogate must be a high one with a low one after it. -/
def scanString : List Char → Option (List Char × List Char)
  | [] => none
  | '"' :: rest => some ([], rest)
  | '\\' :: 'u' :: a :: b :: c :: d :: '\\' :: 'u' :: e :: f :: g :: h :: rest =>
    match codeUnit? a b c d with
    | none => none
    | some unit =>
      if 0xDC00 ≤ unit && unit < 0xE000 then none
      else if 0xD800 ≤ unit && unit < 0xDC00 then
        match codeUnit? e f g h with
        | none => none
        | some low =>
          if 0xDC00 ≤ low && low < 0xE000 then
            (scanString rest).map fun (text, left) =>
              (Char.ofNat (0x10000 + (unit - 0xD800) * 0x400 + (low - 0xDC00)) :: text, left)
          else none
      else
        (scanString ('\\' :: 'u' :: e :: f :: g :: h :: rest)).map fun (text, left) =>
          (Char.ofNat unit :: text, left)
  | '\\' :: 'u' :: a :: b :: c :: d :: rest =>
    match codeUnit? a b c d with
    | none => none
    | some unit =>
      if 0xD800 ≤ unit && unit < 0xE000 then none
      else (scanString rest).map fun (text, left) => (Char.ofNat unit :: text, left)
  | '\\' :: e :: rest =>
    match unescape? e with
    | none => none
    | some c => (scanString rest).map fun (text, left) => (c :: text, left)
  | c :: rest =>
    if c.toNat < 0x20 then none
    else (scanString rest).map fun (text, left) => (c :: text, left)

/-- A scanned string ends before the text does. -/
theorem scanString_shorter (cs text left : List Char)
    (scanned : scanString cs = some (text, left)) :
    left.length < cs.length := by
  fun_induction scanString cs generalizing text left <;>
    simp only [reduceCtorEq, Option.some.injEq, Prod.mk.injEq, Option.map_eq_some_iff,
      Prod.exists] at scanned
  · simp [← scanned.2]
  all_goals
    rename_i ih
    obtain ⟨inner, rest, found, _, same⟩ := scanned
    exact same ▸ Nat.lt_trans (ih inner rest found) (by simp +arith)

/-- The characters that number literals are made of. -/
def isNumberChar (c : Char) : Bool :=
  c.isDigit || c == '-' || c == '+' || c == '.' || c == 'e' || c == 'E'

/-- The exponent part of a literal, without its letter. -/
def exponent? : List Char → Option Int
  | '-' :: digits => (Text.natural? digits).map fun n => -(n : Int)
  | '+' :: digits => (Text.natural? digits).map fun n => (n : Int)
  | digits => (Text.natural? digits).map fun n => (n : Int)

/-- The number that a literal writes: no superfluous leading zero, and digits on both sides of a
point. -/
def Number.ofLiteral? (literal : List Char) : Option Number :=
  let negative := literal.head? == some '-'
  let unsigned := if negative then literal.drop 1 else literal
  let whole := unsigned.takeWhile Char.isDigit
  let afterWhole := unsigned.dropWhile Char.isDigit
  let isPoint := afterWhole.head? == some '.'
  let fraction := (afterWhole.drop 1).takeWhile Char.isDigit
  let afterFraction := if isPoint then (afterWhole.drop 1).dropWhile Char.isDigit else afterWhole
  if whole.isEmpty || (whole.length > 1 && whole.head? == some '0') || (isPoint && fraction.isEmpty)
  then none
  else
    let fraction := if isPoint then some fraction else none
    match afterFraction with
    | [] => Number.ofParts negative whole fraction none
    | e :: rest =>
      if e == 'e' || e == 'E' then
        (exponent? rest).bind fun exponent => Number.ofParts negative whole fraction (some exponent)
      else none

/-- The value that a bare word writes. -/
def wordValue? (word : List Char) : Option Json :=
  if word = ['t', 'r', 'u', 'e'] then some (.bool true)
  else if word = ['f', 'a', 'l', 's', 'e'] then some (.bool false)
  else if word = ['n', 'u', 'l', 'l'] then some .null
  else none

/-- The mark that a character is on its own. -/
def mark? (c : Char) : Option Token :=
  if c = '[' then some .openArray
  else if c = ']' then some .closeArray
  else if c = '\x7b' then some .openObject
  else if c = '\x7d' then some .closeObject
  else if c = ',' then some .comma
  else if c = ':' then some .colon
  else none

/-- The tokens of a text, in order. -/
def tokens? (cs : List Char) : Option (List Token) :=
  match cs with
  | [] => some []
  | c :: rest =>
    if c = ' ' ∨ c = '\n' ∨ c = '\r' ∨ c = '\t' then tokens? rest
    else if c = '"' then
      match _scanned : scanString rest with
      | none => none
      | some (text, left) => (tokens? left).map (.text (String.ofList text) :: ·)
    else if c.isAlpha then
      match wordValue? (c :: rest.takeWhile Char.isAlpha) with
      | none => none
      | some value => (tokens? (rest.dropWhile Char.isAlpha)).map (.scalar value :: ·)
    else if isNumberChar c then
      match Number.ofLiteral? (c :: rest.takeWhile isNumberChar) with
      | none => none
      | some value => (tokens? (rest.dropWhile isNumberChar)).map (.scalar (.number value) :: ·)
    else
      match mark? c with
      | none => none
      | some token => (tokens? rest).map (token :: ·)
termination_by cs.length
decreasing_by
  all_goals simp only [List.length_cons]
  · omega
  · have := scanString_shorter _ _ _ _scanned; omega
  · have := (List.dropWhile_sublist Char.isAlpha (l := rest)).length_le; omega
  · have := (List.dropWhile_sublist isNumberChar (l := rest)).length_le; omega
  · omega

end ResourceRouter.Json
