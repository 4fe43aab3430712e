import Stencil.Script.Expr
import Stencil.Stmt

/-!
# Statements and block headers in embedded code

Statements are separated by line breaks and semicolons. A body stands between braces and is read
outside all brackets. The header of a template block is the start of a statement whose body is the
content of the block.
-/

namespace Stencil.Script

variable {σ : Type} [Moves σ]

def braced (statements : Scan σ (List Stmt)) : Scan σ (List Stmt) := do
  skipSpace
  expect "\x7b"
  let body ← keepingDepth (unbracketed do
    descend
    statements)
  expect "\x7d"
  return body

/-- Reads what may follow a branch of a conditional. White space is passed only if it does. -/
def elseTail (body : Scan σ (List Stmt)) : Nat → Scan σ Else
  | 0 => fail .nestedTooDeeply
  | fuel + 1 => do
    let start ← get
    skip isSpaceOrBreak
    if ← acceptKeyword "elif" then
      return .elif (← expression) (← body) (← elseTail body fuel)
    if ← acceptKeyword "else" then
      skipSpace
      if ← acceptKeyword "if" then
        return .elif (← expression) (← body) (← elseTail body fuel)
      return .block (← body)
    restore start
    return .nothing

/-- Reads the name and the iterable of a loop. -/
def forHead : Scan σ (String × Expr) := do
  let var ← identifier
  expectKeyword "in"
  return (var, ← expression)

/-- Passes the operator of an assignment, if there is one. -/
def assignOp? : Scan σ (Option AssignOp) := do
  if ← accept "+=" then return some .add
  if ← accept "-=" then return some .sub
  if (← peek "=") && !(← peek "==") then
    unseen "="
    return some .set
  return none

/-- Passes a name and the operator of an assignment, or nothing. -/
def assignment? : Scan σ (Option (String × AssignOp)) := do
  let start ← get
  let word ← peekWord
  if word.isEmpty || keywords.contains word then return none
  unseen word
  skipSpace
  match ← assignOp? with
  | some op => return some (word, op)
  | none =>
    restore start
    return none

def statement (body : Scan σ (List Stmt)) : Scan σ Stmt := do
  skipSpace
  if ← acceptKeyword "let" then
    let name ← identifier
    skipSpace
    expect "="
    return .declare name (← expression)
  if ← acceptKeyword "if" then
    return .branch (← expression) (← body) (← elseTail body ((← look).rest.length + 1))
  if ← acceptKeyword "for" then
    let (var, iterable) ← forHead
    return .forLoop var iterable (← body)
  if ← acceptKeyword "while" then
    return .whileLoop (← expression) (← body)
  if ← acceptKeyword "break" then return .breakLoop
  if ← acceptKeyword "continue" then return .continueLoop
  match ← assignment? with
  | some (name, op) => return .assign name op (← expression)
  | none => return .expr (← expression)

/-- Whether a statement may end here: at a separator, at the end, or before the brace that closes
the body. -/
def statementEnds (inBody : Bool) : Scan σ Bool := do
  let c ← look
  return c.rest.isEmpty || c.startsWith "\n" || c.startsWith ";" || (inBody && c.startsWith "\x7d")

/-- Reads statements up to the end of the text, or up to the brace that closes the body. -/
def statementList (body : Scan σ (List Stmt)) (inBody : Bool) : Nat → Scan σ (List Stmt)
  | 0 => fail .nestedTooDeeply
  | fuel + 1 => do
    skip isSeparator
    if ← atEnd then
      if inBody then fail (.expectedToken "\x7d" .endOfInput)
      return []
    if inBody then
      if ← peek "\x7d" then return []
    let s ← statement body
    skipSpace
    unless ← statementEnds inBody do failFound .expectedStatementEnd
    return s :: (← statementList body inBody fuel)

/-- Reads statements with as many levels of bodies as `levels` allows. -/
def statementsWithin (inBody : Bool) : (levels : Nat) → Scan σ (List Stmt)
  | 0 => fail .nestedTooDeeply
  | levels + 1 => do
    statementList (braced (statementsWithin true levels)) inBody ((← look).rest.length + 1)

/-- Reads statements that are the whole text. -/
def wholeStatements : Scan σ (List Stmt) := do
  let statements ← statementsWithin false (maxDepth + 1)
  expectEnd
  return statements

def readStatements (text : List Char) : Except Error (List Stmt) := run wholeStatements text

inductive Header where
  | forEach (var : String) (iterable : Expr)
  | ifTrue (cond : Expr)
  | elseIf (cond : Expr)
  | otherwise
  | whileTrue (cond : Expr)

/-- Reads a header without what follows it. -/
def header : Scan σ Header := do
  skipSpace
  if ← acceptKeyword "for" then
    let (var, iterable) ← forHead
    return .forEach var iterable
  if ← acceptKeyword "if" then return .ifTrue (← expression)
  if ← acceptKeyword "elif" then return .elseIf (← expression)
  if ← acceptKeyword "else" then
    skipSpace
    if ← acceptKeyword "if" then return .elseIf (← expression)
    return .otherwise
  if ← acceptKeyword "while" then return .whileTrue (← expression)
  fail (.unknownHeader (← peekWord))

/-- Reads a header that is the whole text. A colon may end it. -/
def wholeHeader : Scan σ Header := do
  let h ← header
  skipSpace
  let _ ← accept ":"
  expectEnd
  return h

def readHeader (text : List Char) : Except Error Header := run wholeHeader text

end Stencil.Script
