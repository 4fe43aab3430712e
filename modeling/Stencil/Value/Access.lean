import Stencil.Value.Order

/-!
# The contents of a value

Lists, texts and maps can be walked through and looked into. Texts are made of characters; a
negative index counts from the end; walking through a map gives its keys.
-/

namespace Stencil.Value

/-- The values that a loop over `v` visits. -/
def items (v : Value) : Except Failure (List Value) :=
  match v with
  | list items => .ok items
  | string s => .ok (s.toList.map ofChar)
  | map entries => .ok (entries.map fun entry => string entry.1)
  | _ => .error (.notIterable v.typeName)

/-- The place that an index means among `length` places. -/
def position? (index : Int) (length : Nat) : Option Nat :=
  if index < 0 then
    if index.natAbs ≤ length then some (length - index.natAbs) else Option.none
  else if index.toNat < length then some index.toNat
  else Option.none

/-- The item that an index means. -/
def at? {α : Type} (index : Int) (items : List α) : Option α := do
  items[← position? index items.length]?

def lookUp (key : String) (entries : List (String × Value)) : Except Failure Value :=
  match Entries.find? key entries with
  | some v => .ok v
  | Option.none => .error (.missingKey key)

/-- The item at an index of a list, the character at an index of a text, or the value under a key
of a map. -/
def index (target position : Value) : Except Failure Value :=
  match target, position with
  | list items, int i =>
    match at? i.toInt items with
    | some v => .ok v
    | Option.none => .error (.indexOutOfRange i items.length)
  | string s, int i =>
    match at? i.toInt s.toList with
    | some c => .ok (ofChar c)
    | Option.none => .error (.indexOutOfRange i s.length)
  | map entries, string key => lookUp key entries
  | _, _ => .error (mismatch "[]" target position)

/-- The value under a key of a map, written as an attribute. -/
def member (target : Value) (name : String) : Except Failure Value :=
  match target with
  | map entries => lookUp name entries
  | _ => .error (.invalidOperand ("." ++ name) target.typeName)

end Stencil.Value
