set_option autoImplicit false

/-!
The magnitude of a finite binary64 value as a natural number times a power of two, and the interval
of reals that round to it.
-/

namespace ResourceRouter.Decimal

/-- A finite non-negative binary64 value, `significand * 2 ^ exponent`. -/
structure Binary where
  significand : Nat
  exponent : Int
  /-- The value is a power of two, so the value below is half as far away as the value above. -/
  narrowBelow : Bool
deriving DecidableEq, Repr

/-- The magnitude held in the bits of a finite value; the sign bit is not read. -/
def Binary.ofBits (bits : UInt64) : Binary :=
  let field := ((bits >>> 52) &&& 0x7FF).toNat
  let fraction := (bits &&& 0xFFFFFFFFFFFFF).toNat
  if field == 0 then ⟨fraction, -1074, false⟩
  else ⟨0x10000000000000 + fraction, (field : Int) - 1075, fraction == 0 && field > 1⟩

/-- Compares `digits * 10 ^ scale` with `units * 2 ^ power` by cross-multiplication. -/
def compareScaled (digits : Nat) (scale : Int) (units : Nat) (power : Int) : Ordering :=
  compare (digits * Nat.pow 10 scale.toNat * Nat.pow 2 (-power).toNat)
    (units * Nat.pow 2 power.toNat * Nat.pow 10 (-scale).toNat)

/-- The decimal `digits * 10 ^ scale` is nearer to the value than to either of its neighbours; a
decimal halfway belongs to the value with the even significand. -/
def Binary.readsBack (b : Binary) (digits : Nat) (scale : Int) : Bool :=
  let power := b.exponent - 2
  let low := 4 * b.significand - if b.narrowBelow then 1 else 2
  let high := 4 * b.significand + 2
  match compareScaled digits scale low power, compareScaled digits scale high power with
  | .gt, .lt => true
  | .eq, _ => b.significand % 2 == 0
  | _, .eq => b.significand % 2 == 0
  | _, _ => false

end ResourceRouter.Decimal
