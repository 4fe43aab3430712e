import Stencil.Format.Basic
import Stencil.Json.Basic

/-!
# JSON as a format

A character is a string of one character, a pair is an array of two, and nothing at all is `null`.
So is a float that JSON does not have.
-/

namespace Stencil.Json

def kind : Json → Kind
  | null => .unit
  | bool _ => .bool
  | int _ => .int
  | float _ => .float
  | string _ => .string
  | array _ => .list
  | object _ => .map

/-- A whole number is read as a float as well. -/
def float? : Json → Option Float
  | int n => some (Float.ofInt n)
  | float x => some x
  | _ => none

def ofFloat (x : Float) : Json := if x.isFinite then float x else null

def format : Format Json where
  kind := kind
  unit := ⟨fun _ => null, fun | null => some () | _ => none⟩
  bool := ⟨bool, fun | bool b => some b | _ => none⟩
  int := ⟨fun i => int i.toInt, word?⟩
  float := ⟨ofFloat, float?⟩
  char := ⟨fun c => string (String.singleton c), char?⟩
  string := ⟨string, string?⟩
  optional c := ⟨fun o => (o.map c.write).getD null,
    fun | null => some none | j => (c.read? j).map some⟩
  pair c d := ⟨fun p => array [c.write p.1, d.write p.2],
    fun | array [i, j] => (c.read? i).bind fun a => (d.read? j).map fun b => (a, b)
        | _ => none⟩
  list c := ⟨fun items => array (items.map c.write), fun | array js => js.mapM c.read? | _ => none⟩
  map c := ⟨fun entries => object (entries.map fun e => (e.1, c.write e.2)),
    fun | object members => members.mapM fun m => (c.read? m.2).map fun a => (m.1, a)
        | _ => none⟩
  object := object

end Stencil.Json
