/-!
# Binary floating-point numbers as exact numbers

A finite double is a whole number of units `2 ^ exponent`, and the bits of its magnitude are
`(exponent + 1074) * 2 ^ 52 + mantissa`: one formula for normal and subnormal numbers, in which a
mantissa rounded up to `2 ^ 53` carries into the next exponent by itself and the first number that
is too large is infinity. Rounding a ratio is therefore one division, ties going to the even
mantissa.
-/

namespace Stencil.Decimal

-- The powers below are those of `Nat` itself, under any import.
attribute [local instance (high)] instPowNat

/-- The number `mantissa * 2 ^ exponent`. -/
structure Dyadic where
  mantissa : Nat
  exponent : Int
deriving DecidableEq

inductive Decoded where
  | nan
  | infinite (negative : Bool)
  | finite (negative : Bool) (magnitude : Dyadic)
deriving DecidableEq

def leastExponent : Int := -1074

def infinityBits : Nat := 2047 * 2 ^ (52 : Nat)

def signBit (negative : Bool) : Nat := if negative then 2 ^ (63 : Nat) else 0

/-- Reads the fields of a double. -/
def decode (x : Float) : Decoded :=
  let bits : Nat := x.toBits.toNat
  let negative := bits / 2 ^ (63 : Nat) == 1
  let biased : Nat := bits / 2 ^ (52 : Nat) % 2 ^ (11 : Nat)
  let fraction : Nat := bits % 2 ^ (52 : Nat)
  if biased = 2047 then
    if fraction = 0 then .infinite negative else .nan
  else if biased = 0 then .finite negative ⟨fraction, leastExponent⟩
  else .finite negative ⟨2 ^ (52 : Nat) + fraction, (biased : Int) - 1075⟩

/-- The number without its fraction. -/
def Dyadic.whole (d : Dyadic) : Nat := d.mantissa * 2 ^ d.exponent.toNat / 2 ^ (-d.exponent).toNat

def Dyadic.isWhole (d : Dyadic) : Bool := d.mantissa % 2 ^ (-d.exponent).toNat == 0

def isWhole (x : Float) : Bool :=
  match decode x with
  | .finite _ magnitude => magnitude.isWhole
  | _ => false

/-- A double truncated towards zero, where it is finite. -/
def truncate? (x : Float) : Option Int :=
  match decode x with
  | .finite negative magnitude =>
    some (if negative then -(magnitude.whole : Int) else magnitude.whole)
  | _ => none

/-- The quotient rounded to the nearest whole number, a tie to the even one. -/
def roundHalfEven (num den : Nat) : Nat :=
  let quotient := num / den
  let rest := 2 * (num % den)
  if rest < den then quotient
  else if den < rest then quotient + 1
  else quotient + quotient % 2

/-- The exponent of the double nearest to `num / den`: the least one, not below `leastExponent`,
whose mantissa stays below `2 ^ 53`. -/
def exponentOf (num den : Nat) : Int :=
  let scale : Int := (num.log2 : Int) - den.log2
  let below := num * 2 ^ (-scale).toNat < den * 2 ^ scale.toNat
  max leastExponent (if below then scale - 53 else scale - 52)

/-- The bits of the double nearest to `num / den`, infinity when that is out of range. -/
def nearestBits (num den : Nat) : Nat :=
  if num = 0 then 0 else
  let exponent := exponentOf num den
  let mantissa := roundHalfEven (num * 2 ^ (-exponent).toNat) (den * 2 ^ exponent.toNat)
  min infinityBits ((exponent - leastExponent).toNat * 2 ^ (52 : Nat) + mantissa)

def infinity (negative : Bool) : Float := Float.ofBits (UInt64.ofNat (signBit negative + infinityBits))

/-- The double nearest to a signed ratio. -/
def nearest (negative : Bool) (num den : Nat) : Float :=
  Float.ofBits (UInt64.ofNat (signBit negative + nearestBits num den))

end Stencil.Decimal
