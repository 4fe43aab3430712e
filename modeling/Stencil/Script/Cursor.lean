import Stencil.Script.Error
import Stencil.Text.Alphanumeric
import Stencil.Text.Location

/-!
# Reading embedded code

The primitives of the reader. A cursor holds the text still to be read, its place, the number of
open brackets, inside which a line break is a blank like any other, and the depth of the tree that
is being built. A reader keeps its state when it fails, so what a construct restores is restored on
failure too.

Readers are written for any state that can be seen as a cursor and moved like one (`Moves`). Texts
are read with cursors themselves. On these the text and the place are only ever changed by passing
characters, which moves both of them (`Cursor.pass`), and by going back to where they have been
(`Cursor.back`).
-/

namespace Stencil.Script

structure Cursor where
  /-- The text still to be read. -/
  rest : List Char
  place : Location
  /-- How many brackets are open. -/
  brackets : Nat
  /-- The depth of the tree being built. -/
  depth : Nat
deriving DecidableEq

/-- A reader with a state of its own: it yields a result or an error, and a state in both cases. -/
abbrev Scan (σ : Type) := ExceptT Error (StateM σ)

abbrev Parse := Scan Cursor

/-- The deepest nesting of expressions and blocks. -/
def maxDepth : Nat := 128

/-- The words that are no names. -/
def keywords : List String :=
  ["let", "if", "elif", "else", "for", "in", "while", "break", "continue", "and", "or", "not",
    "true", "false", "none"]

def isWordChar (c : Char) : Bool := Text.isAlphanumeric c || c == '_'

/-- Whether a character is a blank within a line. -/
def isSpace (c : Char) : Bool := c == ' ' || c == '\t' || c == '\r'

def isSpaceOrBreak (c : Char) : Bool := isSpace c || c == '\n'

def isSeparator (c : Char) : Bool := isSpaceOrBreak c || c == ';'

/-- How many characters of the text are blanks, as told by `blank`, and comments. A comment starts
at a number sign and ends before the line break; `comment` says that one has started already. -/
def gapLength (blank : Char → Bool) (comment : Bool) : List Char → Nat
  | [] => 0
  | c :: cs =>
    if (comment && c != '\n') || c == '#' then gapLength blank true cs + 1
    else if blank c then gapLength blank false cs + 1
    else 0

namespace Cursor

def start (text : List Char) : Cursor := ⟨text, .start, 0, 0⟩

/-- The cursor after `n` more characters. -/
def pass (c : Cursor) (n : Nat) : Cursor :=
  { c with rest := c.rest.drop n, place := c.place.after (c.rest.take n) }

@[simp] theorem pass_zero (c : Cursor) : c.pass 0 = c := rfl

/-- Passing characters in two steps is passing them in one. -/
theorem pass_pass (c : Cursor) (m n : Nat) : (c.pass m).pass n = c.pass (m + n) := by
  simp [pass, List.drop_drop, List.take_add, Location.after_append]

/-- The cursor at the place of another one. It counts what it counted before. -/
def back (c start : Cursor) : Cursor := { c with rest := start.rest, place := start.place }

def error (c : Cursor) (d : Defect) : Error := ⟨c.place.line, c.place.column, d⟩

def startsWith (c : Cursor) (s : String) : Bool := s.toList.isPrefixOf c.rest

def startsWithChar (c : Cursor) (kind : Char → Bool) : Bool := c.rest.head?.any kind

/-- The word that the text goes on with; it is empty at a digit, which starts a number. -/
def word (c : Cursor) : List Char :=
  if c.startsWithChar Char.isDigit then [] else c.rest.takeWhile isWordChar

/-- The first line of a piece of text. A return before the line break belongs to the break. -/
def firstLine (cs : List Char) : List Char :=
  let line := cs.takeWhile (· != '\n')
  if line.length < cs.length && line.getLast? == some '\r' then line.dropLast else line

/-- What the text goes on with, shortened for a message. -/
def found (c : Cursor) : Found :=
  match c.rest with
  | [] => .endOfInput
  | '\n' :: _ => .endOfLine
  | cs => .text (String.ofList (firstLine (cs.take 10)))

end Cursor

/-- What a reader does with its state. It sees it as a cursor. -/
class Moves (σ : Type) where
  view : σ → Cursor
  /-- Passes the character that the text goes on with. -/
  char : Char → σ → σ
  /-- Passes what the text is known to go on with, a piece of one line. -/
  unseen : String → σ → σ
  /-- Passes blanks of the given kind and comments. -/
  skip : (Char → Bool) → σ → σ
  /-- Passes the longest row of characters of a kind that is not longer than a byte. -/
  row : (Char → Bool) → σ → σ
  /-- Goes back to the place of an earlier state. -/
  back : σ → σ → σ
  setDepth : Nat → σ → σ
  setBrackets : Nat → σ → σ
  /-- Counts a bracket off again, in front of which so many were open. -/
  close : Nat → σ → σ

instance : Moves Cursor where
  view c := c
  char _ c := c.pass 1
  unseen s c := c.pass s.length
  skip blank c := c.pass (gapLength blank false c.rest)
  row kind c := c.pass (c.rest.takeWhile kind).length
  back start c := c.back start
  setDepth depth c := { c with depth }
  setBrackets brackets c := { c with brackets }
  close brackets c := { c with brackets }

section Readers

variable {σ α : Type} [Moves σ]

/-- What is seen of the state. -/
def look : Scan σ Cursor := return Moves.view (← get)

def fail (d : Defect) : Scan σ α := do throw ((← look).error d)

/-- Fails with a defect that tells what the text goes on with. -/
def failFound (d : Found → Defect) : Scan σ α := do fail (d (← look).found)

def char (c : Char) : Scan σ Unit := modify (Moves.char c)

def unseen (s : String) : Scan σ Unit := modify (Moves.unseen s)

def skip (blank : Char → Bool) : Scan σ Unit := modify (Moves.skip blank)

/-- Passes a row of characters of some kind, and yields it. -/
def passWhile (kind : Char → Bool) : Scan σ (List Char) := do
  let run := (← look).rest.takeWhile kind
  modify (Moves.row kind)
  return run

/-- Passes a character, if there is one, and yields it. -/
def nextChar? : Scan σ (Option Char) := do
  match (← look).rest.head? with
  | none => return none
  | some c =>
    char c
    return some c

/-- Goes back to where the reader was in the state `start`. -/
def restore (start : σ) : Scan σ Unit := modify (Moves.back start)

def atEnd : Scan σ Bool := return (← look).rest.isEmpty

def peek (s : String) : Scan σ Bool := return (← look).startsWith s

/-- Passes `s` if the text goes on with it, and tells whether it does. -/
def accept (s : String) : Scan σ Bool := do
  let found ← peek s
  if found then unseen s
  return found

/-- Passes `s`, which has to be there. -/
def expect (s : String) : Scan σ Unit := do
  unless ← accept s do failFound (.expectedToken s)

/-- Passes blanks and comments; line breaks are blanks inside brackets. -/
def skipSpace : Scan σ Unit := do
  skip (if 0 < (← look).brackets then isSpaceOrBreak else isSpace)

def peekWord : Scan σ String := return String.ofList (← look).word

/-- Passes a keyword if it is the word that the text goes on with, and tells whether it is. -/
def acceptKeyword (keyword : String) : Scan σ Bool := do
  let found := (← peekWord) == keyword
  if found then unseen keyword
  return found

/-- Passes blanks and a keyword, which has to be there. -/
def expectKeyword (keyword : String) : Scan σ Unit := do
  skipSpace
  unless ← acceptKeyword keyword do failFound (.expectedToken keyword)

/-- Passes blanks and a name, which is a word that is no keyword. -/
def identifier : Scan σ String := do
  skipSpace
  let word ← peekWord
  if word.isEmpty then failFound .expectedIdentifier
  if keywords.contains word then fail (.keywordAsIdentifier word)
  unseen word
  return word

/-- Goes one level deeper into the tree. -/
def descend : Scan σ Unit := do
  let depth := (← look).depth
  if maxDepth ≤ depth then fail .nestedTooDeeply
  modify (Moves.setDepth (depth + 1))

/-- Runs a reader and comes back to the present depth. -/
def keepingDepth (p : Scan σ α) : Scan σ α := fun s =>
  let (result, s') := p.run.run s
  (result, Moves.setDepth (Moves.view s).depth s')

/-- Runs a reader inside one more bracket. -/
def bracketed (p : Scan σ α) : Scan σ α := fun s =>
  let outside := (Moves.view s).brackets
  let (result, s') := p.run.run (Moves.setBrackets (outside + 1) s)
  (result, Moves.close outside s')

/-- Runs a reader outside all brackets and comes back to those that are open. -/
def unbracketed (p : Scan σ α) : Scan σ α := fun s =>
  let (result, s') := p.run.run (Moves.setBrackets 0 s)
  (result, Moves.setBrackets (Moves.view s).brackets s')

/-- Builds on `a` as long as `step` has something to add. The steps of a reader go deeper into the
tree, so their number is bounded. -/
def extend (step : α → Scan σ (Option α)) : Nat → α → Scan σ α
  | 0, _ => fail .nestedTooDeeply
  | fuel + 1, a => do
    match ← step a with
    | some b => extend step fuel b
    | none => return a

/-- Passes blanks, line breaks and comments, after which the text has to end. -/
def expectEnd : Scan σ Unit := do
  skip isSpaceOrBreak
  unless ← atEnd do failFound .unexpected

end Readers

def run {α : Type} (p : Parse α) (text : List Char) : Except Error α :=
  (p.run.run (.start text)).1

end Stencil.Script
