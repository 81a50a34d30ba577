import ResourceRouter.Decimal.Binary

set_option autoImplicit false

/-!
The shortest decimal that reads back to a binary64 value. For one digit, two digits and so on, the
two neighbours of the value on that decimal grid are tried; the first grid with a hit wins, and of
two hits the nearer.
-/

namespace ResourceRouter.Decimal

/-- The decimal `digits * 10 ^ scale`. -/
structure Scaled where
  digits : Nat
  scale : Int
deriving DecidableEq, Repr

/-- The largest `digits` with `digits * 10 ^ scale` at most the value. -/
def Binary.floorAt (b : Binary) (scale : Int) : Nat :=
  b.significand * Nat.pow 2 b.exponent.toNat * Nat.pow 10 (-scale).toNat /
    (Nat.pow 10 scale.toNat * Nat.pow 2 (-b.exponent).toNat)

/-- The number of decimal places before the point: the least `k` with the value below `10 ^ k`. -/
def Binary.magnitude (b : Binary) : Int :=
  let estimate := Int.fdiv (((Nat.log2 b.significand : Int) + b.exponent) * 30103) 100000 - 1
  let above := (List.range 5).find? fun (step : Nat) =>
    compareScaled 1 (estimate + (step : Int)) b.significand b.exponent == .gt
  estimate + ((above.getD 5 : Nat) : Int)

/-- The neighbour of the value on a decimal grid that reads back to it, if one does. -/
def Binary.onGrid? (b : Binary) (scale : Int) : Option Nat :=
  let below := b.floorAt scale
  match b.readsBack below scale, b.readsBack (below + 1) scale with
  | true, false => some below
  | false, true => some (below + 1)
  | false, false => none
  | true, true =>
    match compareScaled (2 * below + 1) scale (2 * b.significand) b.exponent with
    | .gt => some below
    | .lt => some (below + 1)
    | .eq => some (if below % 2 == 0 then below else below + 1)

/-- Moves trailing zeros of the digits into the scale. -/
def Scaled.stripZeros : Nat → Scaled → Scaled
  | 0, d => d
  | steps + 1, d =>
    if d.digits != 0 && d.digits % 10 == 0 then stripZeros steps ⟨d.digits / 10, d.scale + 1⟩ else d

/-- The shortest decimal for a positive value. Seventeen digits always read back; were they not to,
the seventeen-digit floor would be given. -/
def Binary.shortest (b : Binary) : Scaled :=
  let places := b.magnitude
  let found := (List.range 17).findSome? fun n =>
    let scale := places - (n + 1 : Nat)
    (b.onGrid? scale).map fun digits => Scaled.mk digits scale
  Scaled.stripZeros 20 (found.getD ⟨b.floorAt (places - 17), places - 17⟩)

end ResourceRouter.Decimal
