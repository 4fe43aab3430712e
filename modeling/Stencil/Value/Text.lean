import Stencil.Value.Basic
import Stencil.Decimal.Shortest
import Stencil.Text.Occurrence
import Stencil.Text.Quoted

/-!
# The text of a value

A value standing alone is written as its reader expects to see it: a string as it is, `none` as
nothing. Inside a list or a map the same value must be told from its neighbours, so strings are
quoted and `none` is spelled out.
-/

namespace Stencil.Value

mutual

/-- The characters of a value, standing alone or inside another one. -/
def chars (nested : Bool) : Value → List Char
  | none => if nested then ['n', 'o', 'n', 'e'] else []
  | bool true => ['t', 'r', 'u', 'e']
  | bool false => ['f', 'a', 'l', 's', 'e']
  | int i => Decimal.intDigits i.toInt
  | float x => Decimal.floatText x
  | string s => if nested then Text.Quoted.encode s.toList else s.toList
  | list items => '[' :: Text.joinWith [',', ' '] (itemChars items) ++ [']']
  | map entries => '\x7b' :: Text.joinWith [',', ' '] (entryChars entries) ++ ['\x7d']

def itemChars : List Value → List (List Char)
  | [] => []
  | v :: vs => v.chars true :: itemChars vs

/-- The characters of each entry: its quoted key and its value. -/
def entryChars : List (String × Value) → List (List Char)
  | [] => []
  | (k, v) :: es => (Text.Quoted.encode k.toList ++ ':' :: ' ' :: v.chars true) :: entryChars es

end

def text (v : Value) : String := String.ofList (v.chars false)

end Stencil.Value
