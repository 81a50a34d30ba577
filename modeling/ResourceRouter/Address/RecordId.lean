import ResourceRouter.Text.DecimalDigit
import ResourceRouter.Text.Numeral

set_option autoImplicit false

/-!
Record ids. An id is unique over all regions: `region * regionSize + short`. Its compressed token
spells the two parts, `2r45`. A token whose id does not fit 64 bits stands for itself.
-/

namespace ResourceRouter

namespace RecordId

/-- The number of ids in one region. -/
def regionSize : Nat := 1000000000000

/-- The compressed token of an id. -/
def compress (id : UInt64) : String :=
  String.ofList (Nat.toDigits 10 (id.toNat / regionSize) ++
    'r' :: Nat.toDigits 10 (id.toNat % regionSize))

/-- The two runs of digits of a compressed token. Digits of any script are recognised. -/
def parts? (token : List Char) : Option (List Char × List Char) :=
  let region := token.takeWhile Text.isDecimalDigit
  match token.dropWhile Text.isDecimalDigit with
  | 'r' :: short =>
    if !region.isEmpty && !short.isEmpty && short.all Text.isDecimalDigit then some (region, short)
    else none
  | _ => none

/-- A word written in ASCII digits. -/
def word? (digits : List Char) : Option Nat := (Text.natural? digits).bind Text.word?

/-- The id that a compressed token spells. Only ASCII digits have a value, and no part, product or
sum may exceed 64 bits. -/
def expand? (token : List Char) : Option Nat := do
  let (region, short) ← parts? token
  let region ← word? region
  let short ← word? short
  let base ← Text.word? (region * regionSize)
  Text.word? (base + short)

/-- A plain decimal id. -/
def isNumeric (token : String) : Bool := Text.isNumeral token.toList

end RecordId

/-- A way to encode record ids in tokens. -/
structure TokenDecoder where
  /-- The token is in the encoded form. -/
  recognises : String → Bool
  /-- The id that an encoded token stands for. -/
  decode : String → String

namespace TokenDecoder

/-- The id of a token, encoded or not. -/
def canonical (decoder : TokenDecoder) (token : String) : String :=
  if decoder.recognises token then decoder.decode token else token

/-- Tokens of region and short id. -/
def compressed : TokenDecoder where
  recognises token := (RecordId.parts? token.toList).isSome
  decode token :=
    match RecordId.expand? token.toList with
    | some id => String.ofList (Nat.toDigits 10 id)
    | none => token

end TokenDecoder

end ResourceRouter
