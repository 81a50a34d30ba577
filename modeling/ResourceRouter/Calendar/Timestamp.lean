import ResourceRouter.Calendar.Layout

set_option autoImplicit false

/-!
Timestamps of the internet format: every field has its full width, and the offset from universal
time is part of the text.
-/

namespace ResourceRouter.Calendar

/-- Reads exactly `width` digits. -/
def readExactly (width : Nat) (text : List Char) : Option (Nat × List Char) :=
  let digits := text.take width
  if digits.length = width && digits.all Char.isDigit then
    some (Nat.ofDigitChars 10 digits 0, text.drop width)
  else none

/-- Reads one character that satisfies the test. -/
def readChar (test : Char → Bool) (text : List Char) : Option (List Char) :=
  match text with
  | c :: rest => if test c then some rest else none
  | [] => none

/-- The text is an offset: the letter Z, or a sign with hours and minutes below a whole day. -/
def isOffset (text : List Char) : Bool :=
  match text with
  | ['Z'] | ['z'] => true
  | sign :: rest =>
    (sign == '+' || sign == '-' || sign == '\u2212') &&
      ((do
        let (hours, rest) ← readExactly 2 rest
        let rest ← readChar (· == ':') rest
        let (minutes, rest) ← readExactly 2 rest
        return hours ≤ 23 && minutes ≤ 59 && rest.isEmpty : Option Bool).getD false)
  | [] => false

/-- The text is a timestamp of an existing moment. -/
def isTimestamp (text : List Char) : Bool :=
  (do
    let (year, rest) ← readExactly 4 text
    let rest ← readChar (· == '-') rest
    let (month, rest) ← readExactly 2 rest
    let rest ← readChar (· == '-') rest
    let (day, rest) ← readExactly 2 rest
    let rest ← readChar (fun c => c == 'T' || c == 't' || c == ' ') rest
    let (hour, rest) ← readExactly 2 rest
    let rest ← readChar (· == ':') rest
    let (minute, rest) ← readExactly 2 rest
    let rest ← readChar (· == ':') rest
    let (second, rest) ← readExactly 2 rest
    let rest ← readFraction rest
    let fields : Fields := ⟨year, month, day, hour, minute, second⟩
    return fields.isDate && fields.isTime && isOffset rest : Option Bool).getD false

/-- The text names a date or a moment in any accepted form. -/
def isTime (text : String) : Bool :=
  let chars := text.toList
  isTimestamp chars || momentLayouts.any (isMoment · chars) || isDate chars

end ResourceRouter.Calendar
