import ResourceRouter.Text.Percent
import ResourceRouter.Url.Address
import ResourceRouter.Url.Label

set_option autoImplicit false

/-!
The host of an absolute URL: a name, a numeric address, or in URLs beyond the web any text without
separators.
-/

namespace ResourceRouter.Url

/-- The host inside square brackets, if the text starts with one: it must be an IPv6 address. -/
def bracketed? (host : List Char) : Option Bool :=
  match host with
  | '[' :: rest => some (rest.getLast? == some ']' && isIpv6 rest.dropLast)
  | _ => none

/-- The name that a host text stands for after decoding and folding. -/
def hostName? (host : List Char) : Option (List Char) :=
  (String.fromUTF8? (ByteArray.mk (Text.percentDecode host).toArray)).bind fun text =>
    foldName? text.toList

/-- The text is a host of the web or of a file URL. A name that ends in a number has to be an IPv4
address. -/
def isHost (host : List Char) : Bool :=
  match bracketed? host with
  | some valid => valid
  | none =>
    match hostName? host with
    | none => false
    | some name =>
      !name.isEmpty && !name.any isRefusedMark && areLabels (name.splitOn '.') &&
        (!endsInNumber name || isIpv4 name)

/-- The host text stands for this machine. -/
def isLocalHost (host : List Char) : Bool :=
  hostName? host == some ['l', 'o', 'c', 'a', 'l', 'h', 'o', 's', 't']

/-- The characters that no host holds, whatever the scheme. -/
def hostSeparators : List Char :=
  ['\x00', '\t', '\n', '\x0d', ' ', '#', '/', ':', '<', '>', '?', '@', '[', '\\', ']', '^', '|']

/-- The text is a host of a URL beyond the web. -/
def isOpaqueHost (host : List Char) : Bool :=
  match bracketed? host with
  | some valid => valid
  | none => host.all fun c => !hostSeparators.contains c

end ResourceRouter.Url
