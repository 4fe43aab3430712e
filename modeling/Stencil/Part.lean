import Stencil.Text.Blank
import Stencil.Token

/-!
# Parts

A template as a tree: text, code that stands for itself, and blocks that hold further parts. Code
runs up to its own closing marker and whatever other markers it contains are part of it. A block
runs up to the closing marker that is left over for it; its header is the first line of the text
after its opening marker.

The tree is built in one pass over the tokens. The blocks that are still open are kept with the
parts in front of each, innermost first.
-/

namespace Stencil

/-- A piece of a template. The place of code is that of its first character. -/
inductive Part where
  | text (text : List Char)
  | statements (code : List Char) (place : Place)
  | expression (code : List Char) (place : Place)
  | block (header : List Char) (place : Place) (body : List Part)

structure OpenBlock where
  /-- Where its opening marker stands. -/
  start : Place
  header : List Char
  /-- Where its header stands. -/
  place : Place
  /-- The parts before it at its own level, last first. -/
  before : List Part

/-- What the next token is taken for. -/
inductive Expecting where
  /-- Any part. -/
  | part
  /-- More code after `opening`, up to `closing`; what has been read is kept last token first. -/
  | code (opening : Token) (closing : Marker) (read : List (List Char))
  /-- The header of the block that `opening` starts. -/
  | header (opening : Token)

namespace Token

/-- Where the content after an opening marker starts: a column for each character of the marker. -/
def contentPlace (opening : Token) : Place :=
  ⟨opening.start.line, opening.start.column + opening.text.length⟩

end Token

namespace Part

/-- Adds text to parts that are kept last first. Empty text is no part. -/
def addText (text : List Char) (parts : List Part) : List Part :=
  if text.isEmpty then parts else .text text :: parts

/-- The part made of code between an opening marker and `closing`. -/
def ofCode (opening : Token) (closing : Marker) (code : List Char) : Part :=
  if closing = .statementClose then .statements code opening.contentPlace
  else .expression code opening.contentPlace

/-- The first line of a text, without its line break and a return before it. -/
def headerLine (text : List Char) : List Char :=
  let line := text.takeWhile (· != '\n')
  if line.getLast? == some '\r' then line.dropLast else line

/-- What follows the first line of a text. -/
def afterHeader (text : List Char) : List Char := (text.dropWhile (· != '\n')).drop 1

/-- The flaw of a block without a header. -/
def missingHeader (opening : Token) : Flaw :=
  ⟨opening.start.toPlace, .malformedHeader "" "missing header line"⟩

/-- The flaw of a closing marker with nothing to close. -/
def nothingToClose (t : Token) : Flaw :=
  ⟨t.start.toPlace, .unexpectedClose (String.ofList t.text)⟩

/-- The flaw of a source that ends while something is open. -/
def atEnd (m : Markers) (blocks : List OpenBlock) (parts : List Part) :
    Expecting → Except Flaw (List Part)
  | .code opening closing _ =>
    .error ⟨opening.start.toPlace, .unterminatedCode (m.delimiter closing)⟩
  | .header opening => .error (missingHeader opening)
  | .part =>
    match blocks with
    | [] => .ok parts.reverse
    | b :: _ =>
      .error ⟨b.start, .unclosedBlock (String.ofList (Text.trim b.header)) m.block.closing⟩

/-- Goes on building: `blocks` are the open blocks, `parts` the parts at the innermost level, last
first. -/
def build (m : Markers) (blocks : List OpenBlock) (parts : List Part) (expecting : Expecting) :
    List Token → Except Flaw (List Part)
  | [] => atEnd m blocks parts expecting
  | t :: ts =>
    match expecting with
    | .code opening closing read =>
      if t.kind = .marker closing then
        build m blocks (ofCode opening closing read.reverse.flatten :: parts) .part ts
      else build m blocks parts (.code opening closing (t.text :: read)) ts
    | .header opening =>
      if t.kind = .text ∧ Text.trim (headerLine t.text) ≠ [] then
        let b : OpenBlock :=
          ⟨opening.start.toPlace, headerLine t.text, opening.contentPlace, parts⟩
        build m (b :: blocks) (addText (afterHeader t.text) []) .part ts
      else .error (missingHeader opening)
    | .part =>
      match t.kind with
      | .text => build m blocks (addText t.text parts) .part ts
      | .marker .statementOpen => build m blocks parts (.code t .statementClose []) ts
      | .marker .expressionOpen => build m blocks parts (.code t .expressionClose []) ts
      | .marker .blockOpen => build m blocks parts (.header t) ts
      | .marker .blockClose =>
        match blocks with
        | b :: blocks => build m blocks (.block b.header b.place parts.reverse :: b.before) .part ts
        | [] => .error (nothingToClose t)
      | .marker .statementClose => .error (nothingToClose t)
      | .marker .expressionClose => .error (nothingToClose t)

def ofTokens (m : Markers) (tokens : List Token) : Except Flaw (List Part) :=
  build m [] [] .part tokens

end Part

end Stencil
