import ResourceRouter.Decimal.Shortest
import ResourceRouter.Json.Basic
import ResourceRouter.Text.Numeral

set_option autoImplicit false

/-!
Number literals. A float is read as a significand of at most 64 bits, to which further digits are
not added, scaled once by a power of ten; it is written with the fewest digits that read back.
-/

namespace ResourceRouter.Json.Number

/-- The digits of a literal read so far. -/
structure Digits where
  significand : Nat
  /-- The power of ten by which the significand is to be scaled. -/
  scale : Int
  /-- A digit did not fit any more, so every later one is dropped. -/
  full : Bool
deriving DecidableEq, Repr

/-- The value of an ASCII digit. -/
def digitValue (c : Char) : Nat := c.toNat - 48

/-- The digits before the point: one that does not fit raises the scale instead. -/
def readWhole : List Char → Digits → Digits
  | [], d => d
  | c :: rest, d =>
    let next := d.significand * 10 + digitValue c
    if d.full || next ≥ Text.wordSize then readWhole rest ⟨d.significand, d.scale + 1, true⟩
    else readWhole rest ⟨next, d.scale, false⟩

/-- The digits after the point: each lowers the scale, up to the first that does not fit. -/
def readFraction : List Char → Digits → Digits
  | [], d => d
  | c :: rest, d =>
    let next := d.significand * 10 + digitValue c
    if d.full || next ≥ Text.wordSize then ⟨d.significand, d.scale, true⟩
    else readFraction rest ⟨next, d.scale - 1, false⟩

/-- A power of ten from the table `10 ^ 0` to `10 ^ 308`. -/
def tenTo (n : Nat) : Float := Float.ofScientific 1 false n

/-- Scales a float by a power of ten, in one step where the table reaches. A power below the table
is taken in steps of `10 ^ 308`; above it there is no finite result. -/
def scaleFloat (value : Float) (scale : Int) : Option Float :=
  if scale > 308 then if value == 0.0 then some value else none
  else if scale ≥ 0 then
    let scaled := value * tenTo scale.toNat
    if scaled.isInf then none else some scaled
  else if scale ≥ -308 then some (value / tenTo (-scale).toNat)
  else if scale ≥ -616 then some (value / tenTo 308 / tenTo (-scale - 308).toNat)
  else some 0.0

/-- The largest exponent that is read as a number; a longer one is as good as infinite. -/
def exponentLimit : Int := 0x7FFFFFFF

/-- The scale after an exponent part, kept within 32 bits. -/
def shiftScale (scale exponent : Int) : Int :=
  max (-exponentLimit - 1) (min exponentLimit (scale + exponent))

/-- The number of a literal in parts; none if it is too large for a float. -/
def ofParts (negative : Bool) (whole : List Char) (fraction : Option (List Char))
    (exponent : Option Int) : Option Number :=
  let digits := readWhole whole ⟨0, 0, false⟩
  if fraction.isNone && exponent.isNone && !digits.full &&
      (!negative || (0 < digits.significand && digits.significand ≤ Text.signedLimit)) then
    some (.integer (if negative then -(digits.significand : Int) else digits.significand))
  else
    let start := { digits with full := false }
    let all := readFraction (fraction.getD []) start
    let significand := all.significand.toUInt64.toFloat
    let scaled :=
      match exponent with
      | none => scaleFloat significand all.scale
      | some e =>
        if e > exponentLimit then if all.significand == 0 then some 0.0 else none
        else if e < -exponentLimit then some 0.0
        else scaleFloat significand (shiftScale all.scale e)
    scaled.map fun value => .float (if negative then -value else value)

/-- The digits of a decimal with the point set: positional while at most sixteen digits stand
before the point or four zeros after it, otherwise with a signed exponent. -/
def layout (d : Decimal.Scaled) : String :=
  let digits := Nat.toDigits 10 d.digits
  let count := digits.length
  let places := (count : Int) + d.scale
  if 0 ≤ d.scale && places ≤ 16 then
    String.ofList (digits ++ List.replicate d.scale.toNat '0') ++ ".0"
  else if 0 < places && places ≤ 16 then
    String.ofList (digits.take places.toNat) ++ "." ++ String.ofList (digits.drop places.toNat)
  else if -5 < places && places ≤ 0 then
    "0." ++ String.ofList (List.replicate (-places).toNat '0' ++ digits)
  else
    let tail := if count = 1 then "" else "." ++ String.ofList (digits.drop 1)
    let sign := if 1 ≤ places then "+" else "-"
    String.ofList (digits.take 1) ++ tail ++ "e" ++ sign ++ toString (places - 1).natAbs

/-- The text of a float. -/
def floatText (value : Float) : String :=
  if value.isNaN || value.isInf then "null"
  else
    let bits := value.toBits
    let sign := if bits >>> 63 == 1 then "-" else ""
    let magnitude := Decimal.Binary.ofBits bits
    if magnitude.significand = 0 then sign ++ "0.0" else sign ++ layout magnitude.shortest

/-- The text of a number. -/
def text : Number → String
  | .integer value => toString value
  | .float value => floatText value

end ResourceRouter.Json.Number
