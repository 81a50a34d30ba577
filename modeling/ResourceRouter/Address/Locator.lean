import ResourceRouter.Address.Basic
import ResourceRouter.Address.RecordId
import ResourceRouter.Address.VersionTag
import ResourceRouter.Text.Utf8
import ResourceRouter.Url.Basic

set_option autoImplicit false

/-!
Reading hrefs. An absolute URL, a path under the root of the interface and a bare path all lead to
an address; a text that makes no sense leads to one with parts missing.
-/

namespace ResourceRouter

/-- Reads and writes hrefs under a root path. -/
structure Locator where
  root : String
  decoder : TokenDecoder

namespace Locator

def isSlash (c : Char) : Bool := c == '/'

/-- A root path starts with a slash and does not end with one; the empty root is the empty text. -/
def normalizeRoot (root : List Char) : List Char :=
  Text.dropTrailing isSlash
    ('/' :: Text.dropTrailing isSlash ((Text.trim root).dropWhile isSlash))

/-- The locator under a root path in any spelling. -/
def under (root : String) (decoder : TokenDecoder) : Locator :=
  ⟨String.ofList (normalizeRoot root.toList), decoder⟩

/-- The text contains the mark between a scheme and a host. -/
def hasSchemeMark : List Char → Bool
  | [] => false
  | c :: rest => [':', '/', '/'].isPrefixOf (c :: rest) || hasSchemeMark rest

/-- The path of an absolute URL; any other text is a path itself. -/
def pathOf (href : List Char) : List Char :=
  if hasSchemeMark href then (Url.path? href).getD href else href

/-- The path before its query or fragment. -/
def withoutQuery (path : List Char) : List Char := path.takeWhile fun c => c != '?' && c != '#'

/-- The path under the root, which is put in front unless the path has it already; the slash at
the start is optional. -/
def rooted (root path : List Char) : List Char :=
  let bare := path.dropWhile isSlash
  let under := (root.dropWhile isSlash).isPrefixOf? bare
  if under.any fun rest => rest.isEmpty || rest.head? == some '/' then '/' :: bare
  else if bare.isEmpty then root
  else root ++ '/' :: bare

/-- The segments below the root, empty ones left out. -/
def segments (root path : List Char) : List (List Char) :=
  let full := Text.dropTrailing isSlash (rooted root path)
  let below := (Text.fromByte? (Text.byteLength root) full).getD []
  (below.splitOn '/').filter (!·.isEmpty)

/-- The address that segments spell: a version tag if the first is one, then collection, id,
subcollection and id. Further segments are ignored. -/
def ofSegments (canonical : String → String) (segments : List String) : Address :=
  let version := segments.head?.filter isVersionTag
  let parts := if version.isSome then segments.drop 1 else segments
  { collection := parts[0]?
    collectionId := parts[1]?.map canonical
    subcollection := parts[2]?
    subcollectionId := parts[3]?.map canonical
    version := version }

/-- The address that an href leads to. -/
def parse (locator : Locator) (href : String) : Address :=
  let path := withoutQuery (pathOf (Text.trim href.toList))
  ofSegments locator.decoder.canonical ((segments locator.root.toList path).map String.ofList)

/-- The canonical href of an address. -/
def href (locator : Locator) (address : Address) : String := address.href locator.root

end Locator

end ResourceRouter
