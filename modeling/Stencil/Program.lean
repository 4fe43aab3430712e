import Stencil.Part
import Stencil.Script.Stmt

/-!
# The program of a template

Text becomes a statement that writes it, an expression one that writes its value, embedded
statements stand for themselves, and a block becomes the loop or conditional of its header with its
content as body. A conditional is put together from neighbouring blocks: one that starts it, any
number that go on, and one that ends it. Whatever else comes between them, even code without a
statement, ends it as well, and an alternative that finds nothing to go on with is a flaw.
-/

namespace Stencil

namespace Place

/-- The place in the template of an error in code that starts at `place`. -/
def locate (place : Place) (e : Script.Error) : Place :=
  if e.line = 1 then ⟨place.line, place.column + e.column - 1⟩
  else ⟨place.line + e.line - 1, e.column⟩

end Place

/-- A conditional that may still go on. -/
structure Chain where
  cond : Expr
  body : List Stmt
  /-- The further branches, last first. -/
  more : List (Expr × List Stmt)

namespace Chain

def add (c : Chain) (cond : Expr) (body : List Stmt) : Chain :=
  { c with more := (cond, body) :: c.more }

/-- The conditional with what it does when all its conditions fail. -/
def close (c : Chain) (otherwise : Else) : Stmt :=
  .branch c.cond c.body (c.more.foldl (fun tail b => .elif b.1 b.2 tail) otherwise)

/-- The statements of a chain that nothing has been added to since. -/
def flush : Option Chain → List Stmt
  | some c => [c.close .nothing]
  | none => []

end Chain

/-- What a part adds to the program of its level. -/
inductive Fragment where
  | statements (statements : List Stmt)
  /-- A new conditional. -/
  | start (cond : Expr) (body : List Stmt)
  /-- A further branch; `orphan` is the flaw if there is no conditional to go on with. -/
  | further (cond : Expr) (body : List Stmt) (orphan : Flaw)
  /-- The last branch; `orphan` is the flaw if there is no conditional to end. -/
  | last (body : List Stmt) (orphan : Flaw)

namespace Fragment

/-- The fragment of a block with a header that has been read. -/
def ofBlock (h : Script.Header) (body : List Stmt) (orphan : Flaw) : Fragment :=
  match h with
  | .forEach var iterable => .statements [.forLoop var iterable body]
  | .whileTrue cond => .statements [.whileLoop cond body]
  | .ifTrue cond => .start cond body
  | .elseIf cond => .further cond body orphan
  | .otherwise => .last body orphan

end Fragment

namespace Program

/-- Reads embedded code; an error in it is a flaw of the template. -/
def readCode {α : Type} (place : Place) (result : Except Script.Error α) : Except Flaw α :=
  result.mapError fun e => ⟨place.locate e, .invalidScript e.defect.message⟩

/-- A header as it appears in messages. -/
def headerText (header : List Char) : String := String.ofList (Text.trim header)

def readHeader (header : List Char) (place : Place) : Except Flaw Script.Header :=
  (Script.readHeader header).mapError fun e =>
    ⟨place.locate e, .malformedHeader (headerText header) e.defect.message⟩

mutual

/-- The fragment of a part. The header of a block is read before its content. -/
def fragment : Part → Except Flaw Fragment
  | .text text => .ok (.statements [.emitText (String.ofList text)])
  | .statements code place => .statements <$> readCode place (Script.readStatements code)
  | .expression code place => do
    let e ← readCode place (Script.readExpression code)
    return .statements [.emit e]
  | .block header place body => do
    let h ← readHeader header place
    let body ← ofParts none body
    return .ofBlock h body ⟨place, .orphanBranch (headerText header)⟩

/-- The program of the parts of one level, after a conditional that may still go on. -/
def ofParts (chain : Option Chain) : List Part → Except Flaw Program
  | [] => .ok (Chain.flush chain)
  | part :: parts => do
    match ← fragment part, chain with
    | .statements statements, _ =>
      let rest ← ofParts none parts
      return Chain.flush chain ++ statements ++ rest
    | .start cond body, _ =>
      let rest ← ofParts (some ⟨cond, body, []⟩) parts
      return Chain.flush chain ++ rest
    | .further cond body _, some c => ofParts (some (c.add cond body)) parts
    | .last body _, some c =>
      let rest ← ofParts none parts
      return c.close (.block body) :: rest
    | .further _ _ orphan, none => .error orphan
    | .last _ orphan, none => .error orphan

end

/-- The program of a template with the given markers. -/
def ofSource (m : Markers) (source : List Char) : Except Flaw Program := do
  let tokens ← Token.scan m source
  let parts ← Part.ofTokens m tokens
  ofParts none parts

end Program

end Stencil
