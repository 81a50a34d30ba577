import ResourceRouter.Text.Blank
import ResourceRouter.Url.Host
import ResourceRouter.Url.Path

set_option autoImplicit false

/-!
Absolute URLs, read as a browser reads them: blanks around the text do not count, nor do line breaks
within it outside the paths of files, the parts before the path must be well formed, and the path is
resolved and encoded.
-/

namespace ResourceRouter.Url

/-- The text without controls and blanks at its ends. -/
def trimMargins (raw : List Char) : List Char :=
  let isMargin (c : Char) : Bool := c.toNat ≤ 0x20
  Text.dropTrailing isMargin (raw.dropWhile isMargin)

/-- The scheme and what follows its colon. -/
def scheme? (text : List Char) : Option (List Char × List Char) :=
  let isSchemeChar (c : Char) : Bool := c.isAlphanum || c == '+' || c == '-' || c == '.'
  if text.head?.any Char.isAlpha then
    match text.dropWhile isSchemeChar with
    | ':' :: rest => some ((text.takeWhile isSchemeChar).map Char.toLower, rest)
    | _ => none
  else none

/-- How the URLs of a scheme are read. -/
def SchemeKind.ofName (scheme : List Char) : SchemeKind :=
  let name := String.ofList scheme
  if name == "file" then .file
  else if ["http", "https", "ws", "wss", "ftp"].contains name then .web
  else .other

/-- The character ends the authority, the part of a URL between its scheme and its path. -/
def endsAuthority (kind : SchemeKind) (c : Char) : Bool := endsPath c || kind.isSeparator c

/-- The host text up to a colon, a path, a query or a fragment; a colon in brackets is within it. -/
def takeHost (kind : SchemeKind) (inBrackets : Bool) : List Char → List Char
  | [] => []
  | c :: rest =>
    if endsAuthority kind c || (c == ':' && !inBrackets) then []
    else c :: takeHost kind (if c == '[' then true else if c == ']' then false else inBrackets) rest

/-- What follows the number after a host, which may be missing and is at most 65535. -/
def afterPort? (text : List Char) : Option (List Char) :=
  let digits := text.takeWhile Char.isDigit
  let rest := text.dropWhile Char.isDigit
  if Nat.ofDigitChars 10 digits 0 ≤ 65535 &&
      rest.head?.all (fun c => c == '/' || c == '\\' || endsPath c) then some rest
  else none

/-- The path after a host: on the web it has a root slash in any case, elsewhere it may be empty. -/
def pathAfterHost (kind : SchemeKind) (text : List Char) : List Char :=
  match text with
  | [] => if kind = .other then [] else ['/']
  | c :: rest =>
    if kind.isSeparator c then hierarchicalPath kind rest
    else if kind = .other && endsPath c then []
    else hierarchicalPath kind text

/-- The path of a URL that names a host. A user, or a colon for a number, needs a host. -/
def authorityPath? (kind : SchemeKind) (text : List Char) : Option (List Char) :=
  let authority := text.takeWhile (!endsAuthority kind ·)
  let afterUser := (authority.reverse.takeWhile (· != '@')).reverse
  let user := (authority.take (authority.length - afterUser.length)).dropLast
  let hostAndRest := text.drop (authority.length - afterUser.length)
  let named := !user.isEmpty && user != [':']
  let host := takeHost kind false hostAndRest
  let rest := hostAndRest.drop host.length
  let bareAt := afterUser.length < authority.length && user.isEmpty &&
    hostAndRest.head?.any (endsAuthority kind)
  let hasPort := rest.head? == some ':'
  if bareAt then none
  else if host.isEmpty && (kind = .web || named || hasPort) then none
  else if !(if kind = .other then isOpaqueHost host else isHost host) then none
  else if hasPort then (afterPort? (rest.drop 1)).map (pathAfterHost kind)
  else some (pathAfterHost kind rest)

/-- The path of a file URL, from the text after two slashes: a host may stand before the path. A
drive letter in its place opens the path. -/
def fileAuthorityPath? (text : List Char) : Option (List Char) :=
  let host := withoutBreaks (text.takeWhile (!endsAuthority .file ·))
  let rest := text.dropWhile (!endsAuthority .file ·)
  let afterRoot := if rest.head?.any SchemeKind.file.isSeparator then rest.drop 1 else rest
  if isDriveLetter host then some (filePath true text)
  else if host.isEmpty then some (filePath false afterRoot)
  else if !isHost host then none
  else some (filePath (!isLocalHost host) afterRoot)

/-- The path of a file URL, from the text after its scheme. -/
def filePath? (text : List Char) : Option (List Char) :=
  let text := text.dropWhile isBreak
  if text.head?.any SchemeKind.file.isSeparator then
    let rest := (text.drop 1).dropWhile isBreak
    if rest.head?.any SchemeKind.file.isSeparator then fileAuthorityPath? (rest.drop 1)
    else some (filePath false rest)
  else some (filePath true text)

/-- The path of a text that is an absolute URL. -/
def path? (raw : List Char) : Option (List Char) :=
  let text := trimMargins raw
  match scheme? (withoutBreaks text) with
  | none => none
  | some (scheme, rest) =>
    match SchemeKind.ofName scheme with
    | .file => filePath? ((text.dropWhile (· != ':')).drop 1)
    | .web => authorityPath? .web (rest.dropWhile SchemeKind.web.isSeparator)
    | .other =>
      match rest with
      | '/' :: '/' :: hierarchy => authorityPath? .other hierarchy
      | '/' :: hierarchy => some (hierarchicalPath .other hierarchy)
      | _ => some (opaquePath rest)

end ResourceRouter.Url
