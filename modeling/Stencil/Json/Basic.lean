import Stencil.Entries

/-!
# JSON

JSON values, with whole numbers kept apart from floats. Records are objects in which members that
are not asked for are ignored and those that are come once; they may also be arrays of all their
members in order.
-/

namespace Stencil

inductive Json where
  | null
  | bool (b : Bool)
  | int (n : Int)
  | float (x : Float)
  | string (s : String)
  | array (items : List Json)
  | object (members : List (String × Json))

namespace Json

instance : Inhabited Json := ⟨null⟩

/-- The object with one member. -/
def tagged (name : String) (content : Json) : Json := object [(name, content)]

/-- A string, or `null` where there is none. -/
def ofOption : Option String → Json
  | some s => string s
  | none => null

def string? : Json → Option String
  | string s => some s
  | _ => none

/-- The character of a string that has no other. -/
def char? : Json → Option Char
  | string s =>
    match s.toList with
    | [c] => some c
    | _ => none
  | _ => none

/-- A string or `null`. -/
def optionalString? : Json → Option (Option String)
  | string s => some (some s)
  | null => some none
  | _ => none

/-- A whole number that is not negative and fits in 64 bits. -/
def count? : Json → Option Nat
  | int n => if 0 ≤ n ∧ n < UInt64.size then some n.toNat else none
  | _ => none

/-- A whole number that fits in 64 bits with a sign. -/
def word? : Json → Option Int64
  | int n =>
    if Int64.minValue.toInt ≤ n ∧ n ≤ Int64.maxValue.toInt then some (Int64.ofInt n) else none
  | _ => none

/-- The members of a record with the given names, none of which may come twice. -/
def record? (names : List String) : Json → Option (List (String × Json))
  | object members =>
    if ((members.map Prod.fst).filter names.contains).Nodup then some members else none
  | array items => if items.length = names.length then some (names.zip items) else none
  | _ => none

def member? (name : String) (members : List (String × Json)) : Option Json :=
  Entries.find? name members

def stringMember? (name : String) (members : List (String × Json)) : Option String :=
  (member? name members).bind string?

/-- The string members of a record with the given names. -/
def strings? (names : List String) (j : Json) : Option (String → Option String) :=
  (j.record? names).map fun members name => stringMember? name members

/-- The member of that name, which may be a string, `null` or left out. -/
def optionalMember? (name : String) (members : List (String × Json)) : Option (Option String) :=
  match member? name members with
  | some j => optionalString? j
  | none => some none

end Json

end Stencil
