import Stencil.Script.Error
import Stencil.Text.Location

/-!
# What is wrong with a template

The flaws that keep a template from being compiled. Each has its place in the source; errors in
embedded code appear with the wording of the reader that met them.
-/

namespace Stencil

/-- The line and the column of a flaw. -/
structure Place where
  line : Nat
  column : Nat
deriving DecidableEq

/-- A location without its offset. -/
def Location.toPlace (l : Location) : Place := ⟨l.line, l.column⟩

inductive Defect where
  /-- A quote is never closed. -/
  | unterminatedString
  /-- Embedded statements or an embedded expression are never closed. -/
  | unterminatedCode (expected : String)
  /-- A block is still open at the end. -/
  | unclosedBlock (header expected : String)
  /-- A closing marker has nothing to close. -/
  | unexpectedClose (marker : String)
  /-- The header of a block cannot be read. -/
  | malformedHeader (header reason : String)
  /-- An alternative does not follow what it is an alternative to. -/
  | orphanBranch (header : String)
  /-- Embedded code cannot be read. -/
  | invalidScript (message : String)
deriving DecidableEq

structure Flaw where
  place : Place
  defect : Defect
deriving DecidableEq

def Defect.message : Defect → String
  | unterminatedString => "unterminated string literal"
  | unterminatedCode expected => "unterminated block (expected '" ++ expected ++ "')"
  | unclosedBlock header expected =>
    "unclosed partial block '" ++ header ++ "' (expected '" ++ expected ++ "')"
  | unexpectedClose marker => "unexpected '" ++ marker ++ "' with no open block"
  | malformedHeader header reason =>
    "malformed partial block header '" ++ header ++ "': " ++ reason
  | orphanBranch header =>
    "'" ++ header ++ "' block must directly follow an 'if' or 'elif' block"
  | invalidScript message => message

end Stencil
