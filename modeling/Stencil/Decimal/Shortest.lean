import Stencil.Decimal.Binary
import Stencil.Decimal.Layout

/-!
# The shortest decimal that reads back

Every double is written with the fewest digits that still read back as it. The reals that round to
a double form an interval around it, whose ends belong to it when its mantissa is even; the grids
of multiples of powers of ten are tried from the coarsest on, and the first one with a point in the
interval gives the digits. Of two such points the nearer is taken, of two equally near ones the
upper.

All comparisons are between natural numbers: lengths are counted in quarters of the unit of the
last binary place.
-/

namespace Stencil.Decimal

attribute [local instance (high)] instPowNat

/-- The reals that round to `mantissa * 2 ^ exponent`, in quarters of `2 ^ exponent`. Below a power
of two the next double is only half as far away. -/
structure Interval where
  low : Nat
  middle : Nat
  high : Nat
  /-- Whether the ends belong to it. -/
  closed : Bool

/-- The interval of the reals that round to `d`. -/
def Interval.around (d : Dyadic) : Interval where
  low :=
    4 * d.mantissa - (if d.mantissa = 2 ^ (52 : Nat) ∧ leastExponent < d.exponent then 1 else 2)
  middle := 4 * d.mantissa
  high := 4 * d.mantissa + 2
  closed := d.mantissa % 2 == 0

def Interval.contains (i : Interval) (num den : Nat) : Bool :=
  if i.closed then i.low * den ≤ num && num ≤ i.high * den
  else i.low * den < num && num < i.high * den

/-- The point of the interval on the grid of multiples of `10 ^ place`, if there is one: only the
neighbours of the middle come into question. -/
def pointOnGrid? (i : Interval) (exponent place : Int) : Option Nat :=
  let num := 10 ^ place.toNat * 2 ^ (2 - exponent).toNat
  let den := 10 ^ (-place).toNat * 2 ^ (exponent - 2).toNat
  let below := i.middle * den / num
  let hitBelow := i.contains (below * num) den
  let hitAbove := i.contains ((below + 1) * num) den
  if hitBelow && (!hitAbove || 2 * i.middle * den < (2 * below + 1) * num) then some below
  else if hitAbove then some (below + 1)
  else none

/-- Tries the grids from `10 ^ place` on, each ten times finer than the one before. -/
def firstPoint (i : Interval) (exponent : Int) : Nat → Int → Nat × Int
  | 0, place => (0, place)
  | fuel + 1, place =>
    match pointOnGrid? i exponent place with
    | some digits => (digits, place)
    | none => firstPoint i exponent fuel (place - 1)

/-- A grid whose step is larger than `d`, and not much larger: `30103 / 100000` is a little more
than the logarithm of two. -/
def coarsestPlace (d : Dyadic) : Int :=
  ((d.mantissa.log2 : Int) + 1 + d.exponent) * 30103 / 100000 + 1

/-- The shortest decimal `digits * 10 ^ place` that rounds to a positive number `d`. Seventeen
digits always suffice, so twenty grids do. -/
def shortest (d : Dyadic) : Nat × Int :=
  firstPoint (.around d) d.exponent 20 (coarsestPlace d)

def signed (negative : Bool) (cs : List Char) : List Char := if negative then '-' :: cs else cs

/-- The text of a double: its shortest decimal, without an exponent and without a point when it is
whole. -/
def floatText (x : Float) : List Char :=
  match decode x with
  | .nan => ['N', 'a', 'N']
  | .infinite negative => signed negative ['i', 'n', 'f']
  | .finite negative magnitude =>
    if magnitude.mantissa = 0 then signed negative ['0']
    else
      let (digits, place) := shortest magnitude
      signed negative (positional (natDigits digits) place)

/-- The exact text of a whole double, marked as a float by a decimal place. -/
def wholeFloatText (x : Float) : List Char :=
  match decode x with
  | .finite negative magnitude => signed negative (natDigits magnitude.whole ++ ['.', '0'])
  | _ => floatText x

end Stencil.Decimal
