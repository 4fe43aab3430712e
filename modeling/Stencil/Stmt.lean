import Stencil.Expr

/-!
# Statements of the embedded language

A statement and the text of a block of statements: one to a line, each level of nesting indented by
four spaces. A conditional carries the rest of its chain, so it always has at least one branch and
nothing can follow its last `else`.
-/

namespace Stencil

/-- How an assignment combines the old value of its name with the new one. -/
inductive AssignOp where
  | set
  | add
  | sub
deriving DecidableEq

mutual

inductive Stmt where
  /-- Writes a text as it is. -/
  | emitText (text : String)
  /-- Writes the text of a value. -/
  | emit (e : Expr)
  /-- Binds a name in the current scope. -/
  | declare (name : String) (value : Expr)
  /-- Changes the nearest binding of a name. -/
  | assign (name : String) (op : AssignOp) (value : Expr)
  | expr (e : Expr)
  | branch (cond : Expr) (body : List Stmt) (otherwise : Else)
  | forLoop (var : String) (iterable : Expr) (body : List Stmt)
  | whileLoop (cond : Expr) (body : List Stmt)
  | breakLoop
  | continueLoop

/-- What a conditional does when its condition fails. -/
inductive Else where
  | nothing
  | block (body : List Stmt)
  | elif (cond : Expr) (body : List Stmt) (otherwise : Else)

end

instance : Inhabited Stmt := ⟨.breakLoop⟩

instance : Inhabited Else := ⟨.nothing⟩

namespace AssignOp

def symbol : AssignOp → String
  | set => "="
  | add => "+="
  | sub => "-="

/-- The operator applied to the old and the new value; plain assignment has none. -/
def operator? : AssignOp → Option BinaryOp
  | set => none
  | add => some (.arith .add)
  | sub => some (.arith .sub)

end AssignOp

namespace Stmt

def indent (depth : Nat) : List Char := List.replicate (4 * depth) ' '

/-- The lines of a body between braces, the closing one on a line of its own. -/
def braced (depth : Nat) (lines : List Char) : List Char :=
  [' ', '\x7b', '\n'] ++ lines ++ indent depth ++ ['\x7d']

def callText (function : String) (argument : List Char) : List Char :=
  function.toList ++ '(' :: argument ++ [')']

mutual

/-- The text of a statement on a line that is indented by `depth` levels. -/
def chars (depth : Nat) : Stmt → List Char
  | emitText text => callText "emit_literal" (Text.Quoted.encode text.toList)
  | emit e => callText "emit_value" e.chars
  | declare name value => "let ".toList ++ name.toList ++ " = ".toList ++ value.chars
  | assign name op value => name.toList ++ ' ' :: op.symbol.toList ++ ' ' :: value.chars
  | expr e => e.chars
  | branch cond body otherwise =>
    "if ".toList ++ cond.chars ++ braced depth (blockChars (depth + 1) body) ++
      elseChars depth otherwise
  | forLoop var iterable body =>
    "for ".toList ++ var.toList ++ " in ".toList ++ iterable.chars ++
      braced depth (blockChars (depth + 1) body)
  | whileLoop cond body =>
    "while ".toList ++ cond.chars ++ braced depth (blockChars (depth + 1) body)
  | breakLoop => "break".toList
  | continueLoop => "continue".toList

/-- The text that follows a branch. -/
def elseChars (depth : Nat) : Else → List Char
  | .nothing => []
  | .block body => " else".toList ++ braced depth (blockChars (depth + 1) body)
  | .elif cond body otherwise =>
    " elif ".toList ++ cond.chars ++ braced depth (blockChars (depth + 1) body) ++
      elseChars depth otherwise

def blockChars (depth : Nat) : List Stmt → List Char
  | [] => []
  | s :: ss => indent depth ++ s.chars depth ++ '\n' :: blockChars depth ss

end

end Stmt

/-- A program: statements that are run one after another. -/
abbrev Program := List Stmt

def Program.text (p : Program) : String := String.ofList (Stmt.blockChars 0 p)

end Stencil
