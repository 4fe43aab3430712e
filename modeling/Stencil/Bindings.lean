import Stencil.Value.Basic

/-!
# Bindings

Named values, listed in the order of their names. Contexts and the scopes of a running template are
bindings; the invariant of the order is part of the type, so it needs no mention elsewhere.
-/

namespace Stencil

structure Bindings where
  entries : List (String × Value)
  sorted : Entries.Sorted entries

namespace Bindings

def empty : Bindings := ⟨[], Entries.sorted_nil⟩

instance : Inhabited Bindings := ⟨empty⟩

def find? (b : Bindings) (name : String) : Option Value := Entries.find? name b.entries

def contains (b : Bindings) (name : String) : Bool := Entries.contains name b.entries

/-- Binds a name, replacing what it was bound to. -/
def insert (b : Bindings) (name : String) (value : Value) : Bindings :=
  ⟨Entries.insert name value b.entries, b.sorted.insert⟩

def erase (b : Bindings) (name : String) : Bindings := ⟨Entries.erase name b.entries, b.sorted.erase⟩

def size (b : Bindings) : Nat := b.entries.length

def isEmpty (b : Bindings) : Bool := b.entries.isEmpty

/-- The bindings in the order of their names. -/
def toList (b : Bindings) : List (String × Value) := b.entries

def names (b : Bindings) : List String := b.entries.map Prod.fst

/-- Binds every name of the pairs, one after another. -/
def insertAll (b : Bindings) (pairs : List (String × Value)) : Bindings :=
  ⟨pairs.foldl (fun entries pair => Entries.insert pair.1 pair.2 entries) b.entries,
    b.sorted.insertAll pairs⟩

/-- The bindings of the pairs; of two with the same name the later one counts. -/
def ofList (pairs : List (String × Value)) : Bindings := empty.insertAll pairs

/-- Bindings are the same when they are listed alike. -/
theorem eq_of_toList_eq {b b' : Bindings} (h : b.toList = b'.toList) : b = b' := by
  obtain ⟨entries, sorted⟩ := b
  obtain ⟨entries', sorted'⟩ := b'
  cases show entries = entries' from h
  rfl

/-- Bindings are made again from what they are listed as. -/
theorem ofList_toList (b : Bindings) : ofList b.toList = b :=
  eq_of_toList_eq (Entries.ofList_of_sorted b.sorted)

theorem contains_eq_isSome (b : Bindings) (name : String) :
    b.contains name = (b.find? name).isSome := rfl

theorem mem_names {b : Bindings} {name : String} : name ∈ b.names ↔ (b.find? name).isSome :=
  (Entries.isSome_find? name b.entries).symm

@[simp] theorem find?_empty (name : String) : empty.find? name = none := rfl

theorem find?_insert (b : Bindings) (name n : String) (value : Value) :
    (b.insert name value).find? n = if n = name then some value else b.find? n :=
  Entries.find?_insert name n value b.entries

theorem find?_erase (b : Bindings) (name n : String) :
    (b.erase name).find? n = if n = name then none else b.find? n :=
  Entries.find?_erase name n b.entries

end Bindings

/-- What a template is rendered with. A render only reads it. -/
abbrev Context := Bindings

end Stencil
