/-!
# Operators

The operators of the embedded language with the symbols they are written by and the strength they
bind with. The two connectives are kept apart from the other binary operators because they may
leave their right operand unread.
-/

namespace Stencil

/-- Operators written before their operand. -/
inductive UnaryOp where
  | neg
  | not
deriving DecidableEq

/-- Operators that choose one of their operands by the truth of the left one. -/
inductive Connective where
  | or
  | and
deriving DecidableEq

/-- Operators on numbers, some of which also build texts and lists. -/
inductive Arithmetic where
  | add
  | sub
  | mul
  | div
  | rem
deriving DecidableEq

inductive Comparison where
  | lt
  | le
  | gt
  | ge
deriving DecidableEq

/-- Operators that need both their operands. -/
inductive BinaryOp where
  | eq
  | ne
  | isIn
  | compare (relation : Comparison)
  | arith (op : Arithmetic)
deriving DecidableEq

namespace UnaryOp

def symbol : UnaryOp → String
  | neg => "-"
  | not => "not"

/-- Binding strength; a higher one binds tighter. -/
def strength : UnaryOp → Nat
  | not => 3
  | neg => 7

end UnaryOp

namespace Connective

def symbol : Connective → String
  | or => "or"
  | and => "and"

def strength : Connective → Nat
  | or => 1
  | and => 2

end Connective

namespace Arithmetic

def symbol : Arithmetic → String
  | add => "+"
  | sub => "-"
  | mul => "*"
  | div => "/"
  | rem => "%"

end Arithmetic

namespace Comparison

def symbol : Comparison → String
  | lt => "<"
  | le => "<="
  | gt => ">"
  | ge => ">="

/-- Whether the relation holds between two things in the given order. -/
def holds : Comparison → Ordering → Bool
  | lt, o => o.isLT
  | le, o => o.isLE
  | gt, o => o.isGT
  | ge, o => o.isGE

end Comparison

namespace BinaryOp

def symbol : BinaryOp → String
  | eq => "=="
  | ne => "!="
  | isIn => "in"
  | compare relation => relation.symbol
  | arith op => op.symbol

def strength : BinaryOp → Nat
  | eq | ne | isIn | compare _ => 4
  | arith .add | arith .sub => 5
  | arith .mul | arith .div | arith .rem => 6

end BinaryOp

end Stencil
