/-!
# Digits written out

Whole numbers in base ten, and a string of digits with its point put at a given place. There is
never an exponent: places that the digits do not reach are filled with zeros.
-/

namespace Stencil.Decimal

def natDigits (n : Nat) : List Char := Nat.toDigits 10 n

def intDigits : Int → List Char
  | .ofNat n => natDigits n
  | .negSucc n => '-' :: natDigits (n + 1)

/-- The number `digits * 10 ^ exponent` in positional notation. -/
def positional (digits : List Char) (exponent : Int) : List Char :=
  if 0 ≤ exponent then digits ++ List.replicate exponent.toNat '0'
  else
    let places := (-exponent).toNat
    if places < digits.length then
      digits.take (digits.length - places) ++ '.' :: digits.drop (digits.length - places)
    else '0' :: '.' :: List.replicate (places - digits.length) '0' ++ digits

end Stencil.Decimal
