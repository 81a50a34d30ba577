import ResourceRouter.Text.DecimalDigit

set_option autoImplicit false

/-!
Version tags such as `v2`, `v2.1` and `v3.0.0-pre`: the letter v, numbers separated by points, and
an optional suffix after a hyphen.
-/

namespace ResourceRouter.VersionTag

/-- Where a scan of a tag stands. -/
inductive State where
  | beforeNumber
  | inNumber
  | beforeSuffix
  | inSuffix
deriving DecidableEq, Repr

/-- A character that a suffix may hold. -/
def isSuffixChar (c : Char) : Bool := c.isAlphanum || c == '.'

/-- The rest of a tag after the letter; a tag may end inside a number or a suffix. -/
def accepts : State → List Char → Bool
  | .beforeNumber, [] => false
  | .beforeNumber, c :: rest => Text.isDecimalDigit c && accepts .inNumber rest
  | .inNumber, [] => true
  | .inNumber, c :: rest =>
    if Text.isDecimalDigit c then accepts .inNumber rest
    else if c = '.' then accepts .beforeNumber rest
    else if c = '-' then accepts .beforeSuffix rest
    else false
  | .beforeSuffix, [] => false
  | .beforeSuffix, c :: rest => isSuffixChar c && accepts .inSuffix rest
  | .inSuffix, [] => true
  | .inSuffix, c :: rest => isSuffixChar c && accepts .inSuffix rest

end ResourceRouter.VersionTag

namespace ResourceRouter

/-- The segment is a version tag. -/
def isVersionTag (segment : String) : Bool :=
  match segment.toList with
  | 'v' :: rest => VersionTag.accepts .beforeNumber rest
  | _ => false

end ResourceRouter
