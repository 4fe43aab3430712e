import Stencil.Entries

/-!
# Formats of documents

What is saved is written as a document and read back from one. How is not said here: a format is
given by its writers and readers, one pair for each kind of data, and what is relied on of them is
stated as laws. `Format.Faithful` says that what is written is read back, each part of a list, a
map or a pair by itself; `Format.SelfDescribing` says that a document tells of what kind it is, and
that a reader refuses the documents of other kinds.

Records are written as objects. A record that is read takes each field from the member of its name.
-/

namespace Stencil

/-- A writer and a reader of one type. -/
structure Codec (Doc α : Type) where
  write : α → Doc
  read? : Doc → Option α

/-- What is read of something that has been written. -/
def Codec.again {Doc α : Type} (c : Codec Doc α) (a : α) : Option α := c.read? (c.write a)

/-- The kinds that documents tell apart. -/
inductive Kind where
  | unit
  | bool
  | int
  | float
  | string
  | list
  | map

structure Format (Doc : Type) where
  kind : Doc → Kind
  unit : Codec Doc Unit
  bool : Codec Doc Bool
  int : Codec Doc Int64
  float : Codec Doc Float
  char : Codec Doc Char
  string : Codec Doc String
  optional {α : Type} : Codec Doc α → Codec Doc (Option α)
  pair {α β : Type} : Codec Doc α → Codec Doc β → Codec Doc (α × β)
  list {α : Type} : Codec Doc α → Codec Doc (List α)
  /-- The entries of a map in the order in which they come. -/
  map {α : Type} : Codec Doc α → Codec Doc (List (String × α))
  /-- The object with the given members. -/
  object : List (String × Doc) → Doc

namespace Format

variable {Doc : Type}

/-- What is written is read back. A float has to be finite, and what may be left out must not be
written as nothing. -/
structure Faithful (f : Format Doc) : Prop where
  unit : f.unit.again () = some ()
  bool b : f.bool.again b = some b
  int i : f.int.again i = some i
  float x : x.isFinite → f.float.again x = some x
  char c : f.char.again c = some c
  string s : f.string.again s = some s
  optional_none {α : Type} (c : Codec Doc α) : (f.optional c).again none = some none
  optional_some {α : Type} (c : Codec Doc α) (a : α) : f.kind (c.write a) ≠ .unit →
    (f.optional c).again (some a) = (c.again a).map some
  pair {α β : Type} (c : Codec Doc α) (d : Codec Doc β) (a : α) (b : β) :
    (f.pair c d).again (a, b) = (c.again a).bind fun a => (d.again b).map fun b => (a, b)
  list {α : Type} (c : Codec Doc α) (items : List α) : (f.list c).again items = items.mapM c.again
  map {α : Type} (c : Codec Doc α) (entries : List (String × α)) : Entries.Sorted entries →
    (f.map c).again entries = entries.mapM fun e => (c.again e.2).map fun a => (e.1, a)

/-- A document tells of what kind it is. Readers refuse documents of other kinds, but for whole
numbers, which are read as floats as well. -/
structure SelfDescribing (f : Format Doc) : Prop where
  kind_bool b : f.kind (f.bool.write b) = .bool
  kind_int i : f.kind (f.int.write i) = .int
  kind_float x : x.isFinite → f.kind (f.float.write x) = .float
  kind_string s : f.kind (f.string.write s) = .string
  kind_list {α : Type} (c : Codec Doc α) (items : List α) : f.kind ((f.list c).write items) = .list
  kind_map {α : Type} (c : Codec Doc α) (entries : List (String × α)) :
    f.kind ((f.map c).write entries) = .map
  unit_refuses d : f.kind d ≠ .unit → f.unit.read? d = none
  bool_refuses d : f.kind d ≠ .bool → f.bool.read? d = none
  int_refuses d : f.kind d ≠ .int → f.int.read? d = none
  float_refuses d : f.kind d ≠ .float → f.kind d ≠ .int → f.float.read? d = none
  string_refuses d : f.kind d ≠ .string → f.string.read? d = none
  list_refuses {α : Type} (c : Codec Doc α) d : f.kind d ≠ .list → (f.list c).read? d = none

end Format

end Stencil
