import Stencil.Entries

/-!
# Values

What a context binds and what a template computes with. Whole numbers are 64-bit words; the
entries of a map are kept sorted by whoever builds one, and `WellFormed` says so at every depth.
-/

namespace Stencil

inductive Value where
  | none
  | bool (b : Bool)
  | int (i : Int64)
  | float (x : Float)
  | string (s : String)
  | list (items : List Value)
  /-- The entries are sorted by their keys. -/
  | map (entries : List (String × Value))

/-- The largest text, in bytes, and the longest list that repetition and ranges build. -/
def sizeLimit : Nat := 0x100000

namespace Value

instance : Inhabited Value := ⟨none⟩

def typeName : Value → String
  | none => "none"
  | bool _ => "bool"
  | int _ => "int"
  | float _ => "float"
  | string _ => "string"
  | list _ => "list"
  | map _ => "map"

/-- Whether the value counts as true: everything but `none`, `false`, zero and what is empty. -/
def truthy : Value → Bool
  | none => false
  | bool b => b
  | int i => i != 0
  | float x => x != 0
  | string s => !s.isEmpty
  | list items => !items.isEmpty
  | map entries => !entries.isEmpty

def asString? : Value → Option String
  | string s => some s
  | _ => Option.none

/-- A number as a float; a whole number that is no float is rounded to the nearest. -/
def asFloat? : Value → Option Float
  | int i => some i.toFloat
  | float x => some x
  | _ => Option.none

/-- The whole number `n`, if it fits in 64 bits. -/
def ofInt? (n : Int) : Option Value :=
  if Int64.minValue.toInt ≤ n ∧ n ≤ Int64.maxValue.toInt then some (int (Int64.ofInt n))
  else Option.none

/-- A count as a value. One that does not fit in 64 bits is the greatest that does. -/
def ofCount (n : Nat) : Value := int (Int64.ofNat (min n Int64.maxValue.toNatClampNeg))

def ofChar (c : Char) : Value := string (String.singleton c)

mutual

/-- Maps are sorted by their keys, at every depth. -/
def WellFormed : Value → Prop
  | list items => ItemsWellFormed items
  | map entries => Entries.Sorted entries ∧ EntriesWellFormed entries
  | _ => True

def ItemsWellFormed : List Value → Prop
  | [] => True
  | v :: vs => v.WellFormed ∧ ItemsWellFormed vs

def EntriesWellFormed : List (String × Value) → Prop
  | [] => True
  | (_, v) :: es => v.WellFormed ∧ EntriesWellFormed es

end

end Value

end Stencil
