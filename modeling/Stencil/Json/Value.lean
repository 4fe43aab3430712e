import Stencil.Format.Value
import Stencil.Json.Format

/-!
# Values and contexts as JSON

Every JSON value is read as a value: objects are maps, whole numbers are ints as long as they fit
in 64 bits and floats otherwise. Reading looks at the JSON once instead of trying the kinds of
values in their order, which comes to the same (`Value.untagged_json`). The floats that JSON does
not have are written as `null`.
-/

namespace Stencil

mutual

def Value.ofJson : Json → Value
  | .null => .none
  | .bool b => .bool b
  | .int n =>
    match Json.word? (.int n) with
    | some i => .int i
    | none => .float (Float.ofInt n)
  | .float x => .float x
  | .string s => .string s
  | .array items => .list (itemsOfJson items)
  | .object members => .map (Entries.ofList (entriesOfJson members))

def itemsOfJson : List Json → List Value
  | [] => []
  | j :: js => Value.ofJson j :: itemsOfJson js

def entriesOfJson : List (String × Json) → List (String × Value)
  | [] => []
  | (name, j) :: members => (name, Value.ofJson j) :: entriesOfJson members

end

mutual

def Value.toJson : Value → Json
  | .none => .null
  | .bool b => .bool b
  | .int i => .int i.toInt
  | .float x => if x.isFinite then .float x else .null
  | .string s => .string s
  | .list items => .array (itemsToJson items)
  | .map entries => .object (entriesToJson entries)

def itemsToJson : List Value → List Json
  | [] => []
  | v :: vs => v.toJson :: itemsToJson vs

def entriesToJson : List (String × Value) → List (String × Json)
  | [] => []
  | (name, v) :: entries => (name, v.toJson) :: entriesToJson entries

end

def Value.json : Codec Json Value := ⟨toJson, fun j => some (ofJson j)⟩

namespace Bindings

def ofJson? (j : Json) : Option Context := ((Json.format.map Value.json).read? j).map ofList

def toJson (context : Context) : Json := (Json.format.map Value.json).write context.toList

def json : Codec Json Context := ⟨toJson, ofJson?⟩

end Bindings

end Stencil
