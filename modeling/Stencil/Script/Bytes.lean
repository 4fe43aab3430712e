import Stencil.Script.Cursor

/-!
# Reading by byte offsets

The cursor that a text is read with in memory: it has the whole text, and an offset into it. The
text that is left is looked up at the offset. The offset is moved by numbers of bytes that nobody
checks, and a line is counted only where a line break is passed as a character that has been looked
at (`ByteCursor.passChar`, `ByteCursor.passBytes`). What was saved of a cursor is written back later
(`ByteCursor.back`).

A reader that moves such a cursor leaves a trail of all the cursors that it has had (`Trail`).
-/

namespace Stencil.Script

/-- A place in a text in bytes. -/
structure ByteCursor where
  text : List Char
  /-- Bytes in front of the place. -/
  offset : Nat
  line : Nat
  /-- The offset of the start of the line. -/
  lineStart : Nat
  brackets : Nat
  depth : Nat
deriving DecidableEq

namespace ByteCursor

def start (text : List Char) : ByteCursor := ⟨text, 0, 1, 0, 0, 0⟩

/-- The text behind the offset. It is empty if the offset is not between two characters. -/
def rest (b : ByteCursor) : List Char := (Text.dropBytes b.offset b.text).getD []

/-- One more than the bytes since the start of the line. -/
def column (b : ByteCursor) : Nat := b.offset - b.lineStart + 1

/-- What a reader sees of it. -/
def view (b : ByteCursor) : Cursor := ⟨b.rest, ⟨b.offset, b.line, b.column⟩, b.brackets, b.depth⟩

/-- Moves on by the bytes of a character, and counts it if it is a line break. -/
def passChar (x : Char) (b : ByteCursor) : ByteCursor :=
  let offset := b.offset + x.utf8Size
  if x == '\n' then { b with offset, line := b.line + 1, lineStart := offset }
  else { b with offset }

/-- Moves on by some bytes, among which no line break is supposed to be. -/
def passBytes (bytes : Nat) (b : ByteCursor) : ByteCursor := { b with offset := b.offset + bytes }

/-- Goes back to where a cursor has been saved. -/
def back (start b : ByteCursor) : ByteCursor :=
  { b with offset := start.offset, line := start.line, lineStart := start.lineStart }

end ByteCursor

/-- The cursor that a reader has, and those that it has had before. -/
structure Trail where
  cursor : ByteCursor
  earlier : List ByteCursor

namespace Trail

def start (text : List Char) : Trail := ⟨.start text, []⟩

/-- All cursors of a trail, last first. -/
def steps (t : Trail) : List ByteCursor := t.cursor :: t.earlier

def step (change : ByteCursor → ByteCursor) (t : Trail) : Trail := ⟨change t.cursor, t.steps⟩

/-- Passes blanks and comments, one character after the other. No more of them can be there than
`fuel`; `comment` says that a comment has started. -/
def skip (blank : Char → Bool) : (comment : Bool) → (fuel : Nat) → Trail → Trail
  | _, 0, t => t
  | comment, fuel + 1, t =>
    match t.cursor.rest.head? with
    | none => t
    | some x =>
      if (comment && x != '\n') || x == '#' then skip blank true fuel (t.step (.passChar x))
      else if blank x then skip blank false fuel (t.step (.passChar x))
      else t

/-- Passes a row of characters of some kind byte by byte. -/
def row (kind : Char → Bool) : (fuel : Nat) → Trail → Trail
  | 0, t => t
  | fuel + 1, t =>
    if t.cursor.rest.head?.any kind then row kind fuel (t.step (.passBytes 1)) else t

end Trail

instance : Moves Trail where
  view t := t.cursor.view
  char x := .step (.passChar x)
  unseen piece := .step (.passBytes piece.utf8ByteSize)
  skip blank t := t.skip blank false t.cursor.rest.length
  row kind t := t.row kind t.cursor.rest.length
  back start := .step (.back start.cursor)
  setDepth depth := .step fun b => { b with depth }
  setBrackets brackets := .step fun b => { b with brackets }
  close _ := .step fun b => { b with brackets := b.brackets - 1 }

end Stencil.Script
