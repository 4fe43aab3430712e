import Stencil.Decimal.Binary

/-!
# The remainder of two doubles

The remainder of a division truncated towards zero. It is exact: both numbers are multiples of the
smaller of their two units, and so is what is left, which has the sign of the dividend.
-/

namespace Stencil.Decimal

attribute [local instance (high)] instPowNat

/-- What is left of `x` after taking away `y` as often as it fits, both counted in a common unit. -/
def remainderOf (x y : Dyadic) : Dyadic :=
  let unit := min x.exponent y.exponent
  ⟨x.mantissa * 2 ^ (x.exponent - unit).toNat % (y.mantissa * 2 ^ (y.exponent - unit).toNat), unit⟩

/-- The remainder of `x / y`, with the sign of `x`. There is none of an infinite number or by
zero, and an infinite divisor leaves the dividend as it is. -/
def remainder (x y : Float) : Float :=
  match decode x, decode y with
  | .finite negative a, .finite _ b =>
    if b.mantissa = 0 then 0.0 / 0.0
    else
      let rest := remainderOf a b
      nearest negative (rest.mantissa * 2 ^ rest.exponent.toNat) (2 ^ (-rest.exponent).toNat)
  | .finite .., .infinite _ => x
  | _, _ => 0.0 / 0.0

end Stencil.Decimal
