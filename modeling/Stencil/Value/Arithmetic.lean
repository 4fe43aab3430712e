import Stencil.Decimal.Remainder
import Stencil.Value.Order

/-!
# Operators on values

Whole numbers are computed exactly and a result that does not fit in 64 bits is a failure; division
truncates. As soon as a float takes part, the arithmetic is that of floats, where division by zero
is a failure as well. Addition also joins texts and lists, and multiplication repeats a text.
-/

namespace Stencil.Value

/-- A whole number, or the failure of the operator whose exact result it is. -/
def checked (op : String) (n : Int) : Except Failure Value :=
  match ofInt? n with
  | some v => .ok v
  | Option.none => .error (.overflow op)

/-- Arithmetic on whole numbers. A remainder needs a quotient that fits. -/
def intArithmetic (op : Arithmetic) (a b : Int) : Except Failure Value :=
  match op with
  | .add => checked op.symbol (a + b)
  | .sub => checked op.symbol (a - b)
  | .mul => checked op.symbol (a * b)
  | .div => if b = 0 then .error .divisionByZero else checked op.symbol (a.tdiv b)
  | .rem =>
    if b = 0 then .error .divisionByZero
    else do
      let _ ← checked op.symbol (a.tdiv b)
      checked op.symbol (a.tmod b)

def floatArithmetic (op : Arithmetic) (x y : Float) : Except Failure Value :=
  match op with
  | .add => .ok (float (x + y))
  | .sub => .ok (float (x - y))
  | .mul => .ok (float (x * y))
  | .div => if y == 0 then .error .divisionByZero else .ok (float (x / y))
  | .rem => if y == 0 then .error .divisionByZero else .ok (float (Decimal.remainder x y))

/-- A text several times over; a negative count counts as zero. -/
def repeatText (op : String) (s : String) (count : Int) : Except Failure Value :=
  let times := count.toNat
  if sizeLimit < s.utf8ByteSize * times then .error (.overflow op)
  else if s.isEmpty then .ok (string "")
  else .ok (string (String.ofList (List.replicate times s.toList).flatten))

def arithmetic (op : Arithmetic) (left right : Value) : Except Failure Value :=
  match op, left, right with
  | _, int a, int b => intArithmetic op a.toInt b.toInt
  | .add, string a, string b => .ok (string (a ++ b))
  | .add, list as, list bs => .ok (list (as ++ bs))
  | .mul, string s, int n => repeatText op.symbol s n.toInt
  | .mul, int n, string s => repeatText op.symbol s n.toInt
  | _, _, _ =>
    match left.asFloat?, right.asFloat? with
    | some x, some y => floatArithmetic op x y
    | _, _ => .error (mismatch op.symbol left right)

end Stencil.Value

namespace Stencil

open Value

def UnaryOp.apply (op : UnaryOp) (v : Value) : Except Failure Value :=
  match op, v with
  | .not, v => .ok (.bool !v.truthy)
  | .neg, .int i => checked UnaryOp.neg.symbol (-i.toInt)
  | .neg, .float x => .ok (.float (-x))
  | .neg, v => .error (.invalidOperand UnaryOp.neg.symbol v.typeName)

def BinaryOp.apply (op : BinaryOp) (left right : Value) : Except Failure Value :=
  match op with
  | .eq => .ok (.bool (left.equals right))
  | .ne => .ok (.bool !(left.equals right))
  | .isIn => .bool <$> Value.isIn left right
  | .compare relation => Value.compare relation left right
  | .arith op => arithmetic op left right

end Stencil
