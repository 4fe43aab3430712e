import Stencil.Operator
import Stencil.Value.Text

/-!
# Expressions of the embedded language

An expression and its text. The text has no parentheses but those that the strengths of the
operators call for: an operand is enclosed where it binds looser than its place demands, and since
operators group to the left, the right operand of one demands more than the left.
-/

namespace Stencil

inductive Literal where
  | none
  | bool (b : Bool)
  | int (i : Int64)
  | float (x : Float)
  | string (s : String)

/-- An expression. Filters and methods are calls with what they are applied to as first argument. -/
inductive Expr where
  | literal (l : Literal)
  | list (items : List Expr)
  | var (name : String)
  | unary (op : UnaryOp) (operand : Expr)
  | connect (op : Connective) (left right : Expr)
  | binary (op : BinaryOp) (left right : Expr)
  | call (function : String) (args : List Expr)
  | index (target position : Expr)
  | member (target : Expr) (name : String)

instance : Inhabited Expr := ⟨.literal .none⟩

namespace Literal

def value : Literal → Value
  | none => .none
  | bool b => .bool b
  | int i => .int i
  | float x => .float x
  | string s => .string s

/-- The text of a literal. A whole float keeps a decimal place, so that it is read as a float. -/
def chars : Literal → List Char
  | float x => if Decimal.isWhole x then Decimal.wholeFloatText x else Decimal.floatText x
  | l => l.value.chars true

end Literal

namespace Expr

/-- The strength of everything that needs no parentheses anywhere. -/
def postfixStrength : Nat := 8

/-- How tightly the outermost operator binds. -/
def strength : Expr → Nat
  | unary op _ => op.strength
  | connect op _ _ => op.strength
  | binary op _ _ => op.strength
  | _ => postfixStrength

/-- A text in parentheses, where they are needed. -/
def enclose (needed : Bool) (cs : List Char) : List Char :=
  if needed then '(' :: cs ++ [')'] else cs

mutual

def chars : Expr → List Char
  | literal l => l.chars
  | list items => '[' :: Text.joinWith [',', ' '] (listChars items) ++ [']']
  | var name => name.toList
  | unary .neg e => '-' :: enclose (e.strength < UnaryOp.neg.strength) e.chars
  | unary .not e => ['n', 'o', 't', ' '] ++ enclose (e.strength < UnaryOp.not.strength) e.chars
  | connect op l r =>
    enclose (l.strength < op.strength) l.chars ++ ' ' :: op.symbol.toList ++ ' ' ::
      enclose (r.strength < op.strength + 1) r.chars
  | binary op l r =>
    enclose (l.strength < op.strength) l.chars ++ ' ' :: op.symbol.toList ++ ' ' ::
      enclose (r.strength < op.strength + 1) r.chars
  | call function args =>
    function.toList ++ '(' :: Text.joinWith [',', ' '] (listChars args) ++ [')']
  | index target position =>
    enclose (target.strength < postfixStrength) target.chars ++ '[' :: position.chars ++ [']']
  | member target name =>
    enclose (target.strength < postfixStrength) target.chars ++ '.' :: name.toList

def listChars : List Expr → List (List Char)
  | [] => []
  | e :: es => e.chars :: listChars es

end

end Expr

end Stencil
