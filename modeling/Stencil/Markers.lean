/-!
# Markers

The delimiters by which embedded code is recognised in a template, and the quote between two of
which they are plain text. Any delimiter may be chosen freely; an empty one matches nothing, and
where several match the longest counts.
-/

namespace Stencil

/-- The texts that open and close one kind of embedded code. -/
structure Delimiters where
  opening : String
  closing : String
deriving DecidableEq

structure Markers where
  /-- Around statements that are run where they stand. -/
  statement : Delimiters := ⟨"/*:", ":*/"⟩
  /-- Around a header and the content that it governs. -/
  block : Delimiters := ⟨"//:", "//!"⟩
  /-- Around an expression whose value is written. -/
  expression : Delimiters := ⟨"\x7b\x7b", "\x7d\x7d"⟩
  /-- Between two of these everything is plain text. -/
  quote : Char := '"'
deriving DecidableEq

/-- One of the six delimiters. -/
inductive Marker where
  | statementOpen
  | statementClose
  | blockOpen
  | blockClose
  | expressionOpen
  | expressionClose
deriving DecidableEq

namespace Markers

def delimiter (m : Markers) : Marker → String
  | .statementOpen => m.statement.opening
  | .statementClose => m.statement.closing
  | .blockOpen => m.block.opening
  | .blockClose => m.block.closing
  | .expressionOpen => m.expression.opening
  | .expressionClose => m.expression.closing

/-- All markers. Of those with the same text the first in this order is recognised. -/
def order : List Marker :=
  [.statementOpen, .statementClose, .blockOpen, .blockClose, .expressionOpen, .expressionClose]

/-- The markers that a text starts with, each with its characters. -/
def matching (m : Markers) (text : List Char) : List (Marker × List Char) :=
  (order.map fun marker => (marker, (m.delimiter marker).toList)).filter fun candidate =>
    !candidate.2.isEmpty && candidate.2.isPrefixOf text

/-- The longer of two candidates, the first of two that are equally long. -/
def longer (best : Option (Marker × List Char)) (candidate : Marker × List Char) :
    Option (Marker × List Char) :=
  match best with
  | some b => if b.2.length < candidate.2.length then some candidate else some b
  | none => some candidate

/-- The marker that is recognised at the start of a text. -/
def match? (m : Markers) (text : List Char) : Option (Marker × List Char) :=
  (m.matching text).foldl longer none

end Markers

end Stencil
