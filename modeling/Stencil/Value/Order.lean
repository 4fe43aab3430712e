import Stencil.Failure
import Stencil.Operator
import Stencil.Text.Occurrence
import Stencil.Value.Basic

/-!
# Equality, order and membership

Numbers are compared across their two types, texts by code points. Values of different types are
unequal, but asking for their order is a failure. The float that is no number is unequal to
everything, itself included, and stands in no order.
-/

namespace Stencil.Value

mutual

/-- Whether two values are equal; a whole number may equal a float, at any depth. -/
def equals : Value → Value → Bool
  | none, none => true
  | bool a, bool b => a == b
  | int a, int b => a == b
  | int a, float b => a.toFloat == b
  | float a, int b => a == b.toFloat
  | float a, float b => a == b
  | string a, string b => a == b
  | list as, list bs => itemsEqual as bs
  | map as, map bs => entriesEqual as bs
  | _, _ => false

def itemsEqual : List Value → List Value → Bool
  | [], [] => true
  | a :: as, b :: bs => a.equals b && itemsEqual as bs
  | _, _ => false

def entriesEqual : List (String × Value) → List (String × Value) → Bool
  | [], [] => true
  | (k, a) :: as, (l, b) :: bs => k == l && a.equals b && entriesEqual as bs
  | _, _ => false

end

/-- The order of two floats, where there is one. -/
def floatOrder? (x y : Float) : Option Ordering :=
  if x < y then some .lt
  else if x == y then some .eq
  else if y < x then some .gt
  else Option.none

/-- The failure of a binary operator on two types that it does not combine. -/
def mismatch (op : String) (left right : Value) : Failure :=
  .typeMismatch op left.typeName right.typeName

/-- Whether two values of comparable types stand in the given relation. -/
def compare (relation : Comparison) (left right : Value) : Except Failure Value :=
  match left, right with
  | int a, int b => .ok (bool (relation.holds (Ord.compare a.toInt b.toInt)))
  | string a, string b => .ok (bool (relation.holds (Ord.compare a b)))
  | _, _ =>
    match left.asFloat?, right.asFloat? with
    | some x, some y => .ok (bool ((floatOrder? x y).any relation.holds))
    | _, _ => .error (mismatch relation.symbol left right)

/-- Whether a value is an item of a list, part of a text or a key of a map. -/
def isIn (needle haystack : Value) : Except Failure Bool :=
  match haystack, needle with
  | list items, _ => .ok (items.any needle.equals)
  | string s, string part => .ok (Text.occurs part.toList s.toList)
  | map entries, string key => .ok (Entries.contains key entries)
  | _, _ => .error (mismatch BinaryOp.isIn.symbol needle haystack)

end Stencil.Value
