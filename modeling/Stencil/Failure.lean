import Stencil.Decimal.Layout

/-!
# Why an evaluation fails

One constructor for each cause. Types, operators and functions appear under the names that a
template author knows them by, and `message` is the one place where the wording is fixed.
-/

namespace Stencil

inductive Failure where
  /-- A binary operator met two types it does not combine. -/
  | typeMismatch (op left right : String)
  /-- A function was given something it cannot use. -/
  | invalidArgument (function expected found : String)
  /-- A function was given the wrong number of arguments. -/
  | argumentCount (function expected : String) (found : Nat)
  /-- A unary operator or an attribute met a type it does not apply to. -/
  | invalidOperand (op type : String)
  | unknownFunction (function : String)
  | notIterable (type : String)
  | indexOutOfRange (index : Int64) (length : Nat)
  | missingKey (key : String)
  | divisionByZero
  /-- A result too large for its type, or for the limit on texts and lists. -/
  | overflow (op : String)
  /-- A loop is to be left or continued where there is none. -/
  | outsideLoop (keyword : String)
deriving DecidableEq

namespace Failure

/-- The text of a number in a message. -/
def number (n : Int) : String := String.ofList (Decimal.intDigits n)

def message : Failure → String
  | typeMismatch op left right =>
    "unsupported operand types for '" ++ op ++ "': " ++ left ++ " and " ++ right
  | invalidArgument function expected found =>
    "'" ++ function ++ "' expected " ++ expected ++ ", found " ++ found
  | argumentCount function expected found =>
    "'" ++ function ++ "' takes " ++ expected ++ " argument(s), " ++ number found ++ " given"
  | invalidOperand op type => "unsupported operand type for '" ++ op ++ "': " ++ type
  | unknownFunction function => "unknown function '" ++ function ++ "'"
  | notIterable type => "value of type " ++ type ++ " is not iterable"
  | indexOutOfRange index length =>
    "index " ++ number index.toInt ++ " out of range for length " ++ number length
  | missingKey key => "key '" ++ key ++ "' not found"
  | divisionByZero => "division by zero"
  | overflow op => "integer overflow in '" ++ op ++ "'"
  | outsideLoop keyword => "'" ++ keyword ++ "' outside of a loop"

end Failure

end Stencil
