/-!
# Places in a text

A location is reached from the start of a text by passing its characters one at a time, so it
depends on the passed text only: `after_append` lets a reader stop and go on anywhere. Lines are
ended by `'\n'` alone; columns and offsets count UTF-8 bytes.
-/

namespace Stencil

/-- What is left of a text behind some bytes, which have to end between two characters. -/
def Text.dropBytes : Nat → List Char → Option (List Char)
  | 0, cs => some cs
  | _ + 1, [] => none
  | n + 1, c :: cs => if c.utf8Size ≤ n + 1 then dropBytes (n + 1 - c.utf8Size) cs else none

/-- A place between two characters of a text. Lines and columns start at one. -/
structure Location where
  /-- Bytes before the place. -/
  offset : Nat
  line : Nat
  /-- One more than the bytes between the last line break and the place. -/
  column : Nat
deriving DecidableEq

namespace Location

def start : Location := ⟨0, 1, 1⟩

/-- The place after one more character. -/
def advance (l : Location) (c : Char) : Location :=
  if c = '\n' then ⟨l.offset + c.utf8Size, l.line + 1, 1⟩
  else ⟨l.offset + c.utf8Size, l.line, l.column + c.utf8Size⟩

/-- The place after all of `cs`. -/
def after (l : Location) (cs : List Char) : Location := cs.foldl advance l

@[simp] theorem after_nil (l : Location) : l.after [] = l := rfl

@[simp] theorem after_cons (l : Location) (c : Char) (cs : List Char) :
    l.after (c :: cs) = (l.advance c).after cs := rfl

theorem after_append (l : Location) (cs ds : List Char) :
    l.after (cs ++ ds) = (l.after cs).after ds := by
  simp [after, List.foldl_append]

end Location

end Stencil
