import ResourceRouter.Calendar.Date
import ResourceRouter.Text.Blank

set_option autoImplicit false

/-!
Layouts of dates and times. A number may follow blanks and has one digit or more up to its width;
a year with a sign has any number of digits.
-/

namespace ResourceRouter.Calendar

/-- One item of a layout. -/
inductive Item where
  | year
  | month
  | day
  | hour
  | minute
  | second
  /-- A point and digits, or nothing. -/
  | fraction
  /-- Any number of blanks, none included. -/
  | blanks
  | mark (c : Char)
deriving DecidableEq, Repr

/-- Reads at least one and at most `width` digits. -/
def readNumber (width : Nat) (text : List Char) : Option (Nat × List Char) :=
  let digits := (text.take width).takeWhile Char.isDigit
  if digits.isEmpty then none
  else some (Nat.ofDigitChars 10 digits 0, text.drop digits.length)

/-- Reads a number of one or two digits after blanks. -/
def readPair (text : List Char) : Option (Nat × List Char) := readNumber 2 (Text.trimStart text)

/-- Reads a year: four digits at most, or a sign and any number of digits. -/
def readYear (text : List Char) : Option (Int × List Char) :=
  match text with
  | '-' :: rest => (readNumber rest.length rest).map fun (n, left) => (-(n : Int), left)
  | '+' :: rest => (readNumber rest.length rest).map fun (n, left) => ((n : Int), left)
  | _ => (readNumber 4 text).map fun (n, left) => ((n : Int), left)

/-- Reads digits after a point, if the text has a point. -/
def readFraction (text : List Char) : Option (List Char) :=
  match text with
  | '.' :: rest =>
    if rest.head?.any Char.isDigit then some (rest.dropWhile Char.isDigit) else none
  | _ => some text

/-- Reads one item into its field. -/
def Item.read (fields : Fields) (text : List Char) : Item → Option (Fields × List Char)
  | .year => (readYear (Text.trimStart text)).map fun (n, left) => ({ fields with year := n }, left)
  | .month => (readPair text).map fun (n, left) => ({ fields with month := n }, left)
  | .day => (readPair text).map fun (n, left) => ({ fields with day := n }, left)
  | .hour => (readPair text).map fun (n, left) => ({ fields with hour := n }, left)
  | .minute => (readPair text).map fun (n, left) => ({ fields with minute := n }, left)
  | .second => (readPair text).map fun (n, left) => ({ fields with second := n }, left)
  | .fraction => (readFraction text).map fun left => (fields, left)
  | .blanks => some (fields, Text.trimStart text)
  | .mark c =>
    match text with
    | first :: rest => if first = c then some (fields, rest) else none
    | [] => none

/-- Reads a whole text by a layout. -/
def readLayout : List Item → Fields → List Char → Option Fields
  | [], fields, text => if text.isEmpty then some fields else none
  | item :: rest, fields, text =>
    match item.read fields text with
    | none => none
    | some (fields, left) => readLayout rest fields left

/-- Year, month and day joined by hyphens. -/
def dateLayout : List Item := [.year, .mark '-', .month, .mark '-', .day]

/-- Hour and minute joined by a colon. -/
def minuteLayout : List Item := [.hour, .mark ':', .minute]

/-- Hour, minute and second joined by colons. -/
def secondLayout : List Item := minuteLayout ++ [.mark ':', .second]

/-- The layouts of a date with a time: blanks or the letter T between them, and a time to the
minute, to the second or to a fraction of it. -/
def momentLayouts : List (List Item) :=
  [minuteLayout, secondLayout, secondLayout ++ [.fraction]].flatMap fun time =>
    [dateLayout ++ .blanks :: time, dateLayout ++ .mark 'T' :: time]

/-- The text is an existing moment in the layout. -/
def isMoment (layout : List Item) (text : List Char) : Bool :=
  (readLayout layout .blank text).any fun fields => fields.isDate && fields.isTime

/-- The text is an existing date. -/
def isDate (text : List Char) : Bool := (readLayout dateLayout .blank text).any Fields.isDate

end ResourceRouter.Calendar
