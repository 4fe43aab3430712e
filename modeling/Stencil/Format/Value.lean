import Stencil.Bindings
import Stencil.Format.Basic

/-!
# Values and contexts in a format

A value is written as what it holds, without its kind; a reader tries the kinds one after another.
A context is written as the map that it is.
-/

namespace Stencil

variable {Doc : Type}

namespace Value

/-- What a value is written as, given how those within it are. -/
def content (f : Format Doc) (values : Codec Doc Value) : Value → Doc
  | none => f.unit.write ()
  | bool b => f.bool.write b
  | int i => f.int.write i
  | float x => f.float.write x
  | string s => f.string.write s
  | list items => (f.list values).write items
  | map entries => (f.map values).write entries

/-- The readers of the kinds of values, in the order in which they are tried. -/
def variants (f : Format Doc) (values : Codec Doc Value) : List (Doc → Option Value) :=
  [fun d => (f.unit.read? d).map fun _ => none,
    fun d => (f.bool.read? d).map bool,
    fun d => (f.int.read? d).map int,
    fun d => (f.float.read? d).map float,
    fun d => (f.string.read? d).map string,
    fun d => ((f.list values).read? d).map list,
    fun d => ((f.map values).read? d).map fun entries => map (Entries.ofList entries)]

/-- Values are written without a tag, and read as the first kind that fits. -/
structure Untagged (f : Format Doc) (values : Codec Doc Value) : Prop where
  write_eq v : values.write v = content f values v
  read?_eq d : values.read? d = (variants f values).findSome? (· d)

end Value

/-- A context is written and read as nothing but its bindings. -/
structure Bindings.Transparent (f : Format Doc) (values : Codec Doc Value)
    (contexts : Codec Doc Context) : Prop where
  write_eq c : contexts.write c = (f.map values).write c.toList
  read?_eq d : contexts.read? d = ((f.map values).read? d).map Bindings.ofList

end Stencil
