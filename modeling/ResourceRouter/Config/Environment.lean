import ResourceRouter.Config.Setting
import ResourceRouter.Text.Blank
import ResourceRouter.Text.Numeral
import ResourceRouter.Text.Percent
import ResourceRouter.Text.Utf8

set_option autoImplicit false

/-!
Settings in environment variables. A variable's name leads to a place in nested tables; its value is
a word, a number, a quoted text, a list in square brackets or a table in braces, and anything that
is none of these is a text.
-/

namespace ResourceRouter.Environment

/-- What the names of all variables start with, in any case of the letters. -/
def namePrefix : String := "RESOURCE_ACCESS_"

def isSpace (c : Char) : Bool := c == ' ' || c == '\t' || c == '\n' || c == '\x0c' || c == '\x0d'

def skipSpace (text : List Char) : List Char := text.dropWhile isSpace

/-- A character that ends a bare value. -/
def isMark (c : Char) : Bool := c == ',' || c == '\x7b' || c == '\x7d' || c == '[' || c == ']'

def isNameChar (c : Char) : Bool := c.isAlphanum || c == '_' || c == '-'

/-- The character of a hexadecimal code point. -/
def codePoint? (digits : List Char) : Option Char := do
  let values ← digits.mapM Text.hexDigit?
  let n := values.foldl (fun sum value => 16 * sum + value) 0
  if n.isValidChar then some (Char.ofNat n) else none

/-- The character that a letter after a backslash stands for. -/
def escapedChar? (letter : Char) : Option Char :=
  if letter = '"' then some '"'
  else if letter = '\\' then some '\\'
  else if letter = 'b' then some '\x08'
  else if letter = 'f' then some '\x0c'
  else if letter = 'n' then some '\n'
  else if letter = 'r' then some '\x0d'
  else if letter = 't' then some '\t'
  else none

/-- A control character stands in no quoted text. -/
def isPlainChar (c : Char) : Bool := (0x20 ≤ c.toNat || c == '\t') && c.toNat != 0x7F

/-- The text before a closing quote, with escapes resolved, and what follows it. -/
def readQuoted : List Char → Option (List Char × List Char)
  | [] => none
  | '"' :: rest => some ([], rest)
  | '\\' :: 'u' :: a :: b :: c :: d :: rest =>
    (codePoint? [a, b, c, d]).bind fun char =>
      (readQuoted rest).map fun (text, left) => (char :: text, left)
  | '\\' :: 'U' :: a :: b :: c :: d :: e :: f :: g :: h :: rest =>
    (codePoint? [a, b, c, d, e, f, g, h]).bind fun char =>
      (readQuoted rest).map fun (text, left) => (char :: text, left)
  | '\\' :: letter :: rest =>
    (escapedChar? letter).bind fun char =>
      (readQuoted rest).map fun (text, left) => (char :: text, left)
  | c :: rest =>
    if c == '\\' || !isPlainChar c then none
    else (readQuoted rest).map fun (text, left) => (c :: text, left)

/-- The quoted text that starts after an opening quote, and what follows it. Where an escape occurs,
the text before the first one is kept for as many bytes as it has characters, so that text beyond
ASCII is cut short there. -/
def quoted? (text : List Char) : Option (List Char × List Char) :=
  let lead := text.takeWhile fun c => c != '"' && c != '\\'
  (readQuoted text).map fun (value, left) =>
    match text.drop lead.length with
    | '\\' :: _ => (Text.takeBytes lead.length lead ++ value.drop lead.length, left)
    | _ => (value, left)

/-- The sign of a number and what follows it. -/
def dropSign (text : List Char) : Bool × List Char :=
  match text with
  | '-' :: rest => (true, rest)
  | '+' :: rest => (false, rest)
  | _ => (false, text)

/-- A whole number that fits 64 bits, unsigned or, after a minus sign, signed. -/
def isWhole (text : List Char) : Bool :=
  let (negative, digits) := dropSign text
  (Text.natural? digits).any fun n => if negative then n ≤ Text.signedLimit else n < Text.wordSize

/-- Digits with a point among or beside them, and perhaps an exponent. -/
def isPointed (text : List Char) : Bool :=
  let unsigned := (dropSign text).2
  let whole := unsigned.takeWhile Char.isDigit
  match unsigned.dropWhile Char.isDigit with
  | '.' :: rest =>
    let fraction := rest.takeWhile Char.isDigit
    !(whole.isEmpty && fraction.isEmpty) &&
      match rest.dropWhile Char.isDigit with
      | [] => true
      | e :: exponent => (e == 'e' || e == 'E') && Text.isNumeral (dropSign exponent).2
  | _ => false

/-- A value without quotes or brackets. -/
def bareValue (text : List Char) : Setting :=
  if isPointed text || isWhole text then .number else .text (String.ofList text)

/-- Removes a word from the start of a text. -/
def dropWord? (word : String) (text : List Char) : Option (List Char) :=
  word.toList.isPrefixOf? text

mutual

/-- Reads one value and the spaces around it. Each level of brackets takes one unit of depth. -/
def readValue (depth : Nat) (text : List Char) : Option (Setting × List Char) :=
  let text := skipSpace text
  match dropWord? "true" text, dropWord? "false" text with
  | some rest, _ => some (.flag true, skipSpace rest)
  | none, some rest => some (.flag false, skipSpace rest)
  | none, none =>
    match depth, text with
    | depth + 1, '\x7b' :: rest =>
      (readMembers depth rest.length [] rest).map fun (members, left) =>
        (.table members, skipSpace left)
    | depth + 1, '[' :: rest =>
      (readItems depth rest.length rest).map fun (items, left) => (.list items, skipSpace left)
    | _, '"' :: rest =>
      (quoted? rest).map fun (value, left) => (.text (String.ofList value), skipSpace left)
    | _, '\'' :: c :: '\'' :: rest => some (.character c, skipSpace rest)
    | _, '\'' :: _ => none
    | _, text =>
      some (bareValue (Text.trim (text.takeWhile (!isMark ·))), text.dropWhile (!isMark ·))
termination_by (depth, 0)

/-- Reads the items of a list after its opening bracket; a comma may stand before the closing one.
Every item but the last takes one unit of the count. -/
def readItems (depth count : Nat) (text : List Char) : Option (List Setting × List Char) :=
  match text with
  | ']' :: rest => some ([], rest)
  | _ =>
    match readValue depth text with
    | some (value, ',' :: rest) =>
      match count with
      | 0 => none
      | count + 1 => (readItems depth count rest).map fun (values, left) => (value :: values, left)
    | some (value, ']' :: rest) => some ([value], rest)
    | _ => none
termination_by (depth, count + 1)

/-- Reads the members of a table after its opening brace; a comma may stand before the closing one.
Every member but the last takes one unit of the count. -/
def readMembers (depth count : Nat) (members : List (String × Setting)) (text : List Char) :
    Option (List (String × Setting) × List Char) :=
  match text with
  | '\x7d' :: rest => some (members, rest)
  | _ =>
    let start := skipSpace text
    let name? : Option (List Char × List Char) :=
      match start with
      | '"' :: rest => quoted? rest
      | _ =>
        let name := start.takeWhile isNameChar
        if name.isEmpty then none else some (name, start.dropWhile isNameChar)
    match name?.map fun (name, left) => (name, skipSpace left) with
    | some (name, '=' :: rest) =>
      match readValue depth rest with
      | some (value, ',' :: rest) =>
        let members := Setting.insertMember (String.ofList name) value members
        match count with
        | 0 => none
        | count + 1 => readMembers depth count members rest
      | some (value, '\x7d' :: rest) =>
        some (Setting.insertMember (String.ofList name) value members, rest)
      | _ => none
    | _ => none
termination_by (depth, count + 1)

end

/-- The setting of a variable's value; what does not read to its end is a text, blanks included. -/
def readSetting (value : String) : Setting :=
  let text := value.toList
  match readValue text.length text with
  | some (setting, []) => setting
  | _ => .text value

/-- The text with every pair of underscores replaced by a point. -/
def pointPairs : List Char → List Char
  | '_' :: '_' :: rest => '.' :: pointPairs rest
  | c :: rest => c :: pointPairs rest
  | [] => []

/-- The steps that a variable's name leads along, in small letters; none for other variables and for
names with an empty step. -/
def steps? (name : String) : Option (List String) :=
  let chars := Text.trim name.toList
  let mark := namePrefix.toList
  if (chars.take mark.length).map Char.toUpper = mark then
    let place := (Text.trim (pointPairs (chars.drop mark.length))).map Char.toLower
    let steps := place.splitOn '.'
    if steps.contains [] then none else some (steps.map String.ofList)
  else none

/-- A setting at a place in nested tables. -/
def nest (value : Setting) : List String → Setting
  | [] => value
  | step :: rest => .table [(step, nest value rest)]

/-- The settings of all variables, later ones above earlier ones. -/
def settings (environment : List (String × String)) : List (String × Setting) :=
  environment.foldl (fun members entry =>
    match (steps? entry.1).map (nest (readSetting entry.2)) with
    | some (.table above) => Setting.mergeMembers members above
    | _ => members) []

end ResourceRouter.Environment
