import Stencil.Decimal.Reading
import Stencil.Text.Blank
import Stencil.Text.Case
import Stencil.Value.Access
import Stencil.Value.Text

/-!
# Built-in functions

The functions that compute a value from values alone. Each checks the number and the types of its
arguments in the order in which it reads them. The functions that write output are not among them,
for they need a render to write to.
-/

namespace Stencil

inductive Builtin where
  | range
  | len
  | str
  | int
  | float
  | upper
  | lower
  | trim
  | join
  | split
  | replace
  | default
  | keys
  | values
deriving DecidableEq

namespace Builtin

def name : Builtin → String
  | range => "range"
  | len => "len"
  | str => "str"
  | int => "int"
  | float => "float"
  | upper => "upper"
  | lower => "lower"
  | trim => "trim"
  | join => "join"
  | split => "split"
  | replace => "replace"
  | default => "default"
  | keys => "keys"
  | values => "values"

def all : List Builtin :=
  [range, len, str, int, float, upper, lower, trim, join, split, replace, default, keys, values]

def ofName? (s : String) : Option Builtin := all.find? fun b => b.name == s

/-- The failure of a call with an argument that the function cannot use. -/
def unusable (b : Builtin) (expected : String) (v : Value) : Failure :=
  .invalidArgument b.name expected v.typeName

/-- The failure of a call with the wrong number of arguments. -/
def miscounted (b : Builtin) (expected : String) (args : List Value) : Failure :=
  .argumentCount b.name expected args.length

def single (b : Builtin) : List Value → Except Failure Value
  | [v] => .ok v
  | args => .error (b.miscounted "1" args)

/-- An argument that has to be a whole number. -/
def wholeNumber (b : Builtin) : Value → Except Failure Int
  | .int i => .ok i.toInt
  | v => .error (b.unusable "an int" v)

def characters (b : Builtin) : Value → Except Failure (List Char)
  | .string s => .ok s.toList
  | v => .error (b.unusable "a string" v)

def mapEntries (b : Builtin) : Value → Except Failure (List (String × Value))
  | .map entries => .ok entries
  | v => .error (b.unusable "a map" v)

def textValue (cs : List Char) : Value := .string (String.ofList cs)

/-- How many numbers a range has: the distance of its bounds over that of its numbers, rounded
up. -/
def rangeLength (start stop step : Int) : Nat :=
  if 0 < step ∧ start < stop ∨ step < 0 ∧ stop < start then
    ((stop - start).natAbs + step.natAbs - 1) / step.natAbs
  else 0

/-- Adds the numbers of a range from `current` on, up to the first that does not come before `stop`
or does not fit in 64 bits. -/
def rangeFrom (stop step current : Int) (items : Array Value) : Array Value :=
  if 0 < step ∧ current < stop ∨ step < 0 ∧ stop < current then
    let items := items.push (.int (Int64.ofInt current))
    let next := current + step
    if Int64.minValue.toInt ≤ next ∧ next ≤ Int64.maxValue.toInt then
      rangeFrom stop step next items
    else items
  else items
termination_by (if 0 < step then stop - current else current - stop).toNat
decreasing_by split <;> omega

def rangeArguments : List Value → Except Failure (Int × Int × Int)
  | [stop] => return (0, ← wholeNumber range stop, 1)
  | [start, stop] => return (← wholeNumber range start, ← wholeNumber range stop, 1)
  | [start, stop, step] =>
    return (← wholeNumber range start, ← wholeNumber range stop, ← wholeNumber range step)
  | args => .error (range.miscounted "1 to 3" args)

/-- The whole numbers from a start up to an end that is not among them. -/
def callRange (args : List Value) : Except Failure Value := do
  let (start, stop, step) ← rangeArguments args
  if step = 0 then throw (.invalidArgument range.name "a non-zero step" "0")
  let n := rangeLength start stop step
  if sizeLimit < n then throw (.overflow range.name)
  return .list (rangeFrom stop step start (.emptyWithCapacity n)).toList

def length : Value → Except Failure Value
  | .string s => .ok (.ofCount s.length)
  | .list items => .ok (.ofCount items.length)
  | .map entries => .ok (.ofCount entries.length)
  | v => .error (len.unusable "a string, list or map" v)

/-- A value as a whole number: floats are truncated and strings are read. -/
def toInt (v : Value) : Except Failure Value :=
  match v with
  | .int i => .ok (.int i)
  | .bool b => .ok (.int (if b then 1 else 0))
  | .float x => expect "a float in range" ((Decimal.truncate? x).bind Value.ofInt?)
  | .string s =>
    expect "a number" ((Decimal.readInt? (Text.trim s.toList)).bind Value.ofInt?)
  | _ => .error (int.unusable "a number" v)
where
  expect (expected : String) : Option Value → Except Failure Value
    | some n => .ok n
    | none => .error (int.unusable expected v)

/-- A value as a float: strings are read. -/
def toFloat (v : Value) : Except Failure Value :=
  match v with
  | .int i => .ok (.float i.toFloat)
  | .float x => .ok (.float x)
  | .bool b => .ok (.float (if b then 1 else 0))
  | .string s =>
    match Decimal.readFloat? (Text.trim s.toList) with
    | some x => .ok (.float x)
    | none => .error (float.unusable "a number" v)
  | _ => .error (float.unusable "a number" v)

def joinItems (items : List Value) (separator : List Char) : Value :=
  textValue (Text.joinWith separator (items.map (Value.chars false)))

/-- Joins a list; the separator may stand on either side of it. -/
def callJoin : List Value → Except Failure Value
  | [.list items] => .ok (joinItems items [])
  | [.list items, separator] => return joinItems items (← join.characters separator)
  | [separator, .list items] => return joinItems items (← join.characters separator)
  | [v] => .error (join.unusable "a list" v)
  | [v, _] => .error (join.unusable "a list" v)
  | args => .error (join.miscounted "1 or 2" args)

/-- Splits a text into its words, or at a separator. -/
def callSplit : List Value → Except Failure Value
  | [v] => return .list ((Text.words (← split.characters v)).map textValue)
  | [v, separator] => do
    let pattern ← split.characters separator
    if pattern.isEmpty then throw (split.unusable "a non-empty separator" separator)
    return .list ((Text.cut pattern (← split.characters v)).map textValue)
  | args => .error (split.miscounted "1 or 2" args)

def callReplace : List Value → Except Failure Value
  | [v, pattern, replacement] => do
    let pattern ← replace.characters pattern
    if pattern.isEmpty then
      throw (.invalidArgument replace.name "a non-empty pattern" "empty string")
    let cs ← replace.characters v
    return textValue (Text.replaceAll pattern (← replace.characters replacement) cs)
  | args => .error (replace.miscounted "3" args)

/-- The fallback where there is no value, else the value. -/
def callDefault : List Value → Except Failure Value
  | [.none, fallback] => .ok fallback
  | [v, _] => .ok v
  | args => .error (default.miscounted "2" args)

def call (b : Builtin) (args : List Value) : Except Failure Value :=
  match b with
  | range => callRange args
  | len => b.single args >>= length
  | str => return .string (← b.single args).text
  | int => b.single args >>= toInt
  | float => b.single args >>= toFloat
  | upper => return textValue (Text.upper ((← b.single args).chars false))
  | lower => return textValue (Text.lower ((← b.single args).chars false))
  | trim => return textValue (Text.trim ((← b.single args).chars false))
  | join => callJoin args
  | split => callSplit args
  | replace => callReplace args
  | default => callDefault args
  | keys => return .list ((← b.mapEntries (← b.single args)).map fun entry => .string entry.1)
  | values => return .list ((← b.mapEntries (← b.single args)).map Prod.snd)

end Builtin

end Stencil
