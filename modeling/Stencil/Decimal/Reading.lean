import Stencil.Decimal.Binary

/-!
# Reading numbers

The written forms of numbers in a string: whole numbers with an optional sign, and decimals with an
optional sign, point and exponent or one of the names of infinity and of no number. A decimal is
read as the nearest double.

Rows of digits may be very long, so numbers out of range are recognised by their length, without
forming a power of ten, and a row is shortened to the digits that can decide a rounding. An exponent
is followed only up to `exponentCap`.
-/

namespace Stencil.Decimal

attribute [local instance (high)] instPowNat

/-- The longest row of digits at the start, and what follows it. -/
def spanDigits (cs : List Char) : List Char × List Char := cs.span Char.isDigit

/-- A row of digits without the zeros in front. -/
def significant (row : List Char) : List Char := row.dropWhile (· == '0')

def digitsValue (row : List Char) : Nat := Nat.ofDigitChars 10 row 0

/-- As many digits as can decide a rounding: a number half way between two doubles has fewer. -/
def decisiveDigits : Nat := 800

/-- A row of digits cut off behind the decisive ones. One more digit tells whether the rest was more
than zeros. -/
def shorten (row : List Char) : List Char :=
  if row.length ≤ decisiveDigits then row
  else row.take decisiveDigits ++ [if (row.drop decisiveDigits).all (· == '0') then '0' else '1']

/-- The double nearest to `digits * 10 ^ exponent`. -/
def nearestDecimal (negative : Bool) (digits : Nat) (exponent : Int) : Float :=
  nearest negative (digits * 10 ^ exponent.toNat) (10 ^ (-exponent).toNat)

/-- The double nearest to the number written by a row of digits, times `10 ^ exponent`. -/
def ofDecimal (negative : Bool) (row : List Char) (exponent : Int) : Float :=
  let digits := significant row
  let places : Int := digits.length + exponent
  if digits.isEmpty || places < -400 then nearest negative 0 1
  else if 400 < places then infinity negative
  else
    let decisive := shorten digits
    nearestDecimal negative (digitsValue decisive) (places - decisive.length)

/-- The sign at the start of a number, and what follows it. -/
def spanSign : List Char → Bool × List Char
  | '-' :: cs => (true, cs)
  | '+' :: cs => (false, cs)
  | cs => (false, cs)

/-- An optional sign and one or more digits. -/
def signedRow? (cs : List Char) : Option (Bool × List Char) :=
  let (negative, row) := spanSign cs
  if row.isEmpty || !row.all Char.isDigit then none else some (negative, row)

def withSign (negative : Bool) (n : Nat) : Int := if negative then -n else n

/-- A whole number: an optional sign and one or more digits, of which not more than twenty count,
for no number of 64 bits needs more. -/
def readInt? (cs : List Char) : Option Int := do
  let (negative, row) ← signedRow? cs
  let digits := significant row
  if 20 < digits.length then none else some (withSign negative (digitsValue digits))

/-- Where the digits of an exponent stop counting. -/
def exponentCap : Nat := 0x10000

/-- The number written by the digits of an exponent. Those that follow after it has reached
`exponentCap` are left out. -/
def exponentValue (row : List Char) : Nat :=
  row.foldl (fun n c => if n < exponentCap then 10 * n + (c.toNat - '0'.toNat) else n) 0

/-- The exponent that ends a decimal: nothing, or an `e` with an optional sign and digits. -/
def readExponent? : List Char → Option Int
  | [] => some 0
  | c :: cs =>
    if c = 'e' ∨ c = 'E' then
      (signedRow? cs).map fun (negative, row) => withSign negative (exponentValue row)
    else none

/-- A decimal without its sign. A digit before or after the point is enough. -/
def readMagnitude? (negative : Bool) (cs : List Char) : Option Float :=
  let (whole, rest) := spanDigits cs
  let (fraction, rest) :=
    match rest with
    | '.' :: rest => spanDigits rest
    | _ => ([], rest)
  if whole.isEmpty && fraction.isEmpty then none
  else (readExponent? rest).map fun exponent =>
    ofDecimal negative (whole ++ fraction) (exponent - fraction.length)

/-- The names of the doubles that are no decimals, in any case. -/
def readName? (negative : Bool) (cs : List Char) : Option Float :=
  let name := String.ofList (cs.map Char.toLower)
  if name = "inf" ∨ name = "infinity" then some (infinity negative)
  else if name = "nan" then some (0.0 / 0.0)
  else none

/-- A decimal or the name of a double. -/
def readFloat? (cs : List Char) : Option Float :=
  let (negative, rest) := spanSign cs
  readName? negative rest <|> readMagnitude? negative rest

end Stencil.Decimal
