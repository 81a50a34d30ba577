import ResourceRouter.Text.Percent

set_option autoImplicit false

/-!
The path of an absolute URL. It is taken segment by segment: dot segments are resolved, other ones
percent-encoded, and in file URLs a drive letter stays where it is.
-/

namespace ResourceRouter.Url

/-- Schemes differ in how their separators and their hosts are read. -/
inductive SchemeKind where
  | file
  /-- The schemes of the web: a host is required, and a backslash separates like a slash. -/
  | web
  | other
deriving DecidableEq, Repr

/-- A character that ends a segment. -/
def SchemeKind.isSeparator (kind : SchemeKind) (c : Char) : Bool :=
  c == '/' || (c == '\\' && kind != .other)

/-- The start of a query or a fragment, which ends the path. -/
def endsPath (c : Char) : Bool := c == '?' || c == '#'

/-- A tab or a line break, which counts nowhere in a URL. -/
def isBreak (c : Char) : Bool := c == '\t' || c == '\n' || c == '\r'

/-- The text without tabs and line breaks. -/
def withoutBreaks (text : List Char) : List Char := text.filter (!isBreak ·)

/-- Controls and characters beyond ASCII, which no part of a URL holds as they are. -/
def isControlOrWide (c : Char) : Bool := c.toNat < 0x20 || c.toNat ≥ 0x7F

/-- The characters that a path segment holds only in percent-encoded form. -/
def isEncodedInPath (c : Char) : Bool :=
  isControlOrWide c || c == ' ' || c == '"' || c == '#' || c == '<' || c == '>' || c == '?' ||
    c == '\x60' || c == '\x7b' || c == '\x7d'

/-- The rest of a segment that spells one dot, by itself or as an escape. -/
def dropDot? : List Char → Option (List Char)
  | '.' :: rest => some rest
  | '%' :: '2' :: 'e' :: rest => some rest
  | '%' :: '2' :: 'E' :: rest => some rest
  | _ => none

/-- A segment that names its own directory. -/
def isSingleDot (segment : List Char) : Bool := dropDot? segment == some []

/-- A segment that names the directory above. -/
def isDoubleDot (segment : List Char) : Bool := (dropDot? segment).bind dropDot? == some []

/-- A segment that is a letter and a colon or bar. -/
def isDriveLetter : List Char → Bool
  | [letter, mark] => letter.isAlpha && (mark == ':' || mark == '|')
  | _ => false

/-- A segment that `..` does not remove: a drive letter, or one followed by a backslash. -/
def isFixed : List Char → Bool
  | [letter, mark] => letter.isAlpha && (mark == ':' || mark == '|')
  | letter :: mark :: '\\' :: _ => letter.isAlpha && (mark == ':' || mark == '|')
  | _ => false

/-- The drive letter and the rest of a segment, if a tab or line break stands between them. -/
def cutOffDrive? (raw : List Char) : Option (List Char × List Char) :=
  match withoutBreaks raw with
  | letter :: ':' :: first :: rest =>
    let afterColon := (raw.dropWhile (· != ':')).drop 1
    if letter.isAlpha && afterColon.head?.any isBreak then some ([letter, ':'], first :: rest)
    else none
  | _ => none

/-- Removes the last finished segment, unless it is fixed; the segments are held in reverse. -/
def removeLast : List (List Char) → List (List Char)
  | [] => []
  | segment :: above => if isFixed segment then segment :: above else above

/-- Adds one encoded segment to the finished ones and gives what it leaves as the segment in
progress: dot segments leave nothing. -/
def addSegment (above : List (List Char)) (segment : List Char) :
    List (List Char) × Option (List Char) :=
  if isDoubleDot segment then (removeLast above, none)
  else if isSingleDot segment then (above, none)
  else (above, some segment)

/-- Adds one raw segment of a path. -/
def addRaw (above : List (List Char)) (raw : List Char) : List (List Char) × Option (List Char) :=
  addSegment above (Text.percentEncode isEncodedInPath raw)

/-- Adds one raw segment of the path of a file URL. A drive letter at the root that is cut off by a
tab or line break is a segment by itself, and what follows it is a name in any case. -/
def addFileRaw (above : List (List Char)) (raw : List Char) :
    List (List Char) × Option (List Char) :=
  match cutOffDrive? raw, above with
  | some (drive, name), [] => ([drive], some (Text.percentEncode isEncodedInPath name))
  | _, _ => addRaw above (withoutBreaks raw)

/-- Takes the raw segments in order; the last one is not followed by a slash. -/
def addSegments (add : List (List Char) → List Char → List (List Char) × Option (List Char))
    (above : List (List Char)) : List (List Char) → List (List Char) × List Char
  | [] => (above, [])
  | [raw] =>
    let (above, current) := add above raw
    (above, current.getD [])
  | raw :: rest =>
    let (above, current) := add above raw
    addSegments add (current.toList ++ above) rest

/-- The raw segments of a path, from the text after its root slash. -/
def rawSegments (kind : SchemeKind) (text : List Char) : List (List Char) :=
  (text.takeWhile (!endsPath ·)).splitOnP kind.isSeparator

/-- The text of a path: the finished segments, in reverse, and the last one. -/
def joinSegments (above : List (List Char)) (last : List Char) : List Char :=
  '/' :: (above.reverse.flatMap (· ++ ['/']) ++ last)

/-- The path of a hierarchical URL, from the text after its root slash. -/
def hierarchicalPath (kind : SchemeKind) (text : List Char) : List Char :=
  let (above, last) := addSegments addRaw [] (rawSegments kind text)
  joinSegments above last

/-- A drive letter is written with a colon. -/
def writeDrive (segment : List Char) : List Char :=
  if isDriveLetter (withoutBreaks segment) then (withoutBreaks segment).take 1 ++ [':'] else segment

/-- The path of a file URL, from the text after its root slash; it has no empty segments at its
start. Where the root slash follows a host or is left out, a drive letter may open the path. -/
def filePath (mayOpenWithDrive : Bool) (text : List Char) : List Char :=
  let raw := rawSegments .file text
  let raw := if mayOpenWithDrive then (raw.take 1).map writeDrive ++ raw.drop 1 else raw
  let (above, last) := addSegments addFileRaw [] raw
  '/' :: (joinSegments above last).dropWhile (· == '/')

/-- The path of a URL without hierarchy, which is kept as one text. -/
def opaquePath (text : List Char) : List Char :=
  Text.percentEncode isControlOrWide (text.takeWhile (!endsPath ·))

end ResourceRouter.Url
