import ResourceRouter.Text.Numeral

set_option autoImplicit false

/-!
Numeric hosts: IPv4 addresses with up to four parts in three bases, and IPv6 addresses. Only their
validity matters here, as it decides whether a text is a URL at all.
-/

namespace ResourceRouter.Url

/-- A part of an IPv4 address: hexadecimal after `0x`, octal after `0`, otherwise decimal. -/
def ipv4Part? (part : List Char) : Option Nat :=
  let inBase (base : Nat) (isDigit : Char → Bool) (digits : List Char) : Option Nat :=
    let value (c : Char) : Nat := if c.isDigit then c.toNat - 48 else c.toLower.toNat - 87
    if digits.all isDigit then some (digits.foldl (fun n c => n * base + value c) 0) else none
  match part with
  | [] => none
  | '0' :: 'x' :: digits | '0' :: 'X' :: digits =>
    inBase 16 (fun c => c.isDigit || ('a' ≤ c.toLower && c.toLower ≤ 'f')) digits
  | ['0'] => some 0
  | '0' :: digits => inBase 8 (fun c => '0' ≤ c && c ≤ '7') digits
  | digits => inBase 10 Char.isDigit digits

/-- The parts of a host between its points, a single point at the end left out. -/
def hostParts (host : List Char) : List (List Char) :=
  let parts := host.splitOn '.'
  if parts.length > 1 && parts.getLast? == some [] then parts.dropLast else parts

/-- The last part of the host is a number, so that the host can only be an IPv4 address. -/
def endsInNumber (host : List Char) : Bool :=
  match (hostParts host).getLast? with
  | none => false
  | some last => Text.isNumeral last || (ipv4Part? last).isSome

/-- At most four numbers: all but the last below 256, the last filling the bytes that are left. -/
def isIpv4 (host : List Char) : Bool :=
  let parts := hostParts host
  match parts.mapM ipv4Part? with
  | none => false
  | some numbers =>
    match numbers.getLast? with
    | none => false
    | some last =>
      numbers.length ≤ 4 && numbers.dropLast.all (· < 256) &&
        last < Nat.pow 256 (5 - numbers.length)

/-- One to four hexadecimal digits. -/
def isIpv6Piece (piece : List Char) : Bool :=
  1 ≤ piece.length && piece.length ≤ 4 &&
    piece.all fun c => c.isDigit || ('a' ≤ c.toLower && c.toLower ≤ 'f')

/-- Four decimal numbers below 256 without leading zeros. -/
def isDottedQuad (text : List Char) : Bool :=
  let parts := text.splitOn '.'
  parts.length == 4 && parts.all fun part =>
    match Text.natural? part with
    | none => false
    | some n => n < 256 && (part.length == 1 || part.head? != some '0')

/-- The number of sixteen-bit pieces in a run between colons; a dotted quad may end it and counts
for two. -/
def ipv6Pieces? (run : List Char) : Option Nat :=
  if run.isEmpty then some 0
  else
    let pieces := run.splitOn ':'
    if pieces.all isIpv6Piece then some pieces.length
    else if pieces.dropLast.all isIpv6Piece && pieces.getLast?.any isDottedQuad then
      some (pieces.length + 1)
    else none

/-- The texts before and after the first double colon. -/
def splitDoubleColon : List Char → Option (List Char × List Char)
  | ':' :: ':' :: rest => some ([], rest)
  | c :: rest => (splitDoubleColon rest).map fun (before, after) => (c :: before, after)
  | [] => none

/-- Eight pieces, or fewer with one double colon for the zeros left out. -/
def isIpv6 (host : List Char) : Bool :=
  match splitDoubleColon host with
  | none => ipv6Pieces? host == some 8
  | some (before, after) =>
    match ipv6Pieces? before, ipv6Pieces? after with
    | some m, some n => m + n ≤ 7 && !(before.contains '.')
    | _, _ => false

end ResourceRouter.Url
