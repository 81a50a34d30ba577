import ResourceRouter.Text.Blank
import ResourceRouter.Text.Direction
import ResourceRouter.Text.Joining
import ResourceRouter.Text.NormalForm
import ResourceRouter.Url.HostLetter
import ResourceRouter.Url.Punycode

set_option autoImplicit false

/-!
The labels of an internationalised name: the form that all spellings of a label share, labels in
encoded form, and the rules on marks, joiners and direction that keep a label readable.
-/

namespace ResourceRouter.Url

/-- The form that all spellings of a name share, if no character of it is refused. -/
def foldName? (text : List Char) : Option (List Char) :=
  if text.any isRefusedLetter then none
  else some (Text.normalForm ((text.filter (!isIgnoredLetter ·)).flatMap foldLetter))

/-- The most digits that an encoded label may have. -/
def maxEncodedDigits : Nat := 2000

/-- The most characters of a label with characters beyond ASCII. -/
def maxWideLength : Nat := 1000

def isAscii (text : List Char) : Bool := text.all (·.toNat < 0x80)

/-- The label that an encoded one stands for; labels without the mark of the encoded form stand for
themselves. An encoded label needs a letter beyond ASCII, and encodes a label that is folded and
without the mark itself. -/
def decodeLabel? (label : List Char) : Option (List Char) :=
  match label with
  | 'x' :: 'n' :: '-' :: '-' :: digits =>
    if !isAscii digits || digits.isEmpty || digits.getLast? == some '-' ||
        maxEncodedDigits < digits.length then none
    else
      (Punycode.decode? digits).bind fun text =>
        if text.any isIgnoredLetter || foldName? text != some text ||
          ['x', 'n', '-', '-'].isPrefixOf text then none
        else some text
  | _ => some label

/-- A zero-width joiner or non-joiner. -/
def isJoiner (c : Char) : Bool := c == '\u200c' || c == '\u200d'

/-- A joiner may follow a virama, and a non-joiner may part two letters that would join. -/
def isJoinerInPlace (before : List Char) (joiner : Char) (after : List Char) : Bool :=
  let nearest (text : List Char) : Option Char := (text.dropWhile Text.isTransparent).head?
  before.head?.any Text.isVirama ||
    (joiner == '\u200c' && (nearest before).any Text.joinsNext &&
      (nearest after).any Text.joinsPrevious)

/-- Every joiner is in place; the characters before are given in reverse. -/
def areJoinersInPlace (before : List Char) : List Char → Bool
  | [] => true
  | c :: after =>
    (!isJoiner c || isJoinerInPlace before c after) && areJoinersInPlace (c :: before) after

/-- The label reads without its neighbours: it starts with no mark, its joiners are in place, and it
is not too long. -/
def isReadableLabel (label : List Char) : Bool :=
  !label.head?.any Text.isMark && areJoinersInPlace [] label &&
    (isAscii label || label.length ≤ maxWideLength)

/-- A character that turns the whole name into one of mixed direction. -/
def turnsDirection (c : Char) : Bool :=
  Text.direction c = .rightToLeft || Text.direction c = .arabicNumber

/-- In a name of mixed direction a label starts with a letter of its direction, ends with one or
with a number, apart from marks, and has no letter of the other direction. From right to left it
may have numbers of one kind only. -/
def isDirectedLabel (label : List Char) : Bool :=
  let core := Text.dropTrailing (· == .attached) ((label.drop 1).map Text.direction)
  match label.head?.map Text.direction with
  | none => true
  | some .leftToRight =>
    core.all (fun d => d != .rightToLeft && d != .arabicNumber) &&
      core.getLast?.all fun d => d = .leftToRight || d = .europeanNumber
  | some .rightToLeft =>
    core.all (· != .leftToRight) &&
      (core.getLast?.all fun d =>
        d = .rightToLeft || d = .europeanNumber || d = .arabicNumber) &&
      !(core.contains .europeanNumber && core.contains .arabicNumber)
  | some _ => false

/-- The labels are those of a name: none is in a form that is never written, and all are readable
together. -/
def areLabels (labels : List (List Char)) : Bool :=
  match labels.mapM decodeLabel? with
  | none => false
  | some decoded =>
    decoded.all isReadableLabel &&
      (!decoded.any (·.any turnsDirection) || decoded.all isDirectedLabel)

end ResourceRouter.Url
