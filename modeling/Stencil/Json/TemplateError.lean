import Stencil.Json.Basic
import Stencil.TemplateError

/-!
# Errors as JSON

An error is an object with one member, named for the kind of error, and so is every cause that
carries something; a cause that carries nothing is just its name. Reading is the inverse.
-/

namespace Stencil

namespace Json

/-- The name and the content of a cause. A bare name has no content. -/
def cause? : Json → Option (String × Json)
  | string name => some (name, null)
  | object [(name, content)] => some (name, content)
  | _ => none

/-- Whether a cause that carries nothing is written as such. -/
def isEmptyCause : Json → Bool
  | null => true
  | _ => false

end Json

namespace Defect

def kind : Defect → String
  | unterminatedString => "UnterminatedString"
  | unterminatedCode _ => "UnterminatedBlock"
  | unclosedBlock _ _ => "UnclosedBlock"
  | unexpectedClose _ => "UnexpectedClose"
  | malformedHeader _ _ => "MalformedHeader"
  | orphanBranch _ => "OrphanBranch"
  | invalidScript _ => "InvalidScript"

def members : Defect → List (String × Json)
  | unterminatedString => []
  | unterminatedCode expected => [("expected", .string expected)]
  | unclosedBlock header expected => [("expected", .string expected), ("header", .string header)]
  | unexpectedClose marker => [("marker", .string marker)]
  | malformedHeader header reason => [("header", .string header), ("reason", .string reason)]
  | orphanBranch header => [("header", .string header)]
  | invalidScript message => [("message", .string message)]

def ofMembers? (kind : String) (content : Json) : Option Defect := do
  match kind with
  | "UnterminatedString" => if content.isEmptyCause then some unterminatedString else none
  | "UnterminatedBlock" =>
    let get ← content.strings? ["expected"]
    return unterminatedCode (← get "expected")
  | "UnclosedBlock" =>
    let get ← content.strings? ["header", "expected"]
    return unclosedBlock (← get "header") (← get "expected")
  | "UnexpectedClose" =>
    let get ← content.strings? ["marker"]
    return unexpectedClose (← get "marker")
  | "MalformedHeader" =>
    let get ← content.strings? ["header", "reason"]
    return malformedHeader (← get "header") (← get "reason")
  | "OrphanBranch" =>
    let get ← content.strings? ["header"]
    return orphanBranch (← get "header")
  | "InvalidScript" =>
    let get ← content.strings? ["message"]
    return invalidScript (← get "message")
  | _ => none

end Defect

namespace Failure

def kind : Failure → String
  | typeMismatch _ _ _ => "TypeMismatch"
  | invalidArgument _ _ _ => "InvalidArgument"
  | argumentCount _ _ _ => "ArgumentCount"
  | invalidOperand _ _ => "InvalidOperand"
  | unknownFunction _ => "UnknownFunction"
  | notIterable _ => "NotIterable"
  | indexOutOfRange _ _ => "IndexOutOfRange"
  | missingKey _ => "MissingKey"
  | divisionByZero => "DivisionByZero"
  | overflow _ => "Overflow"
  | outsideLoop _ => "LoopControlOutsideLoop"

def members : Failure → List (String × Json)
  | typeMismatch op left right =>
    [("left", .string left), ("op", .string op), ("right", .string right)]
  | invalidArgument function expected found =>
    [("expected", .string expected), ("found", .string found), ("function", .string function)]
  | argumentCount function expected found =>
    [("expected", .string expected), ("found", .int found), ("function", .string function)]
  | invalidOperand op type => [("op", .string op), ("ty", .string type)]
  | unknownFunction function => [("function", .string function)]
  | notIterable type => [("ty", .string type)]
  | indexOutOfRange index length => [("index", .int index.toInt), ("len", .int length)]
  | missingKey key => [("key", .string key)]
  | divisionByZero => []
  | overflow op => [("op", .string op)]
  | outsideLoop keyword => [("keyword", .string keyword)]

def ofMembers? (kind : String) (content : Json) : Option Failure := do
  match kind with
  | "TypeMismatch" =>
    let get ← content.strings? ["op", "left", "right"]
    return typeMismatch (← get "op") (← get "left") (← get "right")
  | "InvalidArgument" =>
    let get ← content.strings? ["function", "expected", "found"]
    return invalidArgument (← get "function") (← get "expected") (← get "found")
  | "ArgumentCount" =>
    let members ← content.record? ["function", "expected", "found"]
    let function ← Json.stringMember? "function" members
    let expected ← Json.stringMember? "expected" members
    return argumentCount function expected (← Json.member? "found" members >>= Json.count?)
  | "InvalidOperand" =>
    let get ← content.strings? ["op", "ty"]
    return invalidOperand (← get "op") (← get "ty")
  | "UnknownFunction" =>
    let get ← content.strings? ["function"]
    return unknownFunction (← get "function")
  | "NotIterable" =>
    let get ← content.strings? ["ty"]
    return notIterable (← get "ty")
  | "IndexOutOfRange" =>
    let members ← content.record? ["index", "len"]
    let index ← Json.member? "index" members >>= Json.word?
    return indexOutOfRange index (← Json.member? "len" members >>= Json.count?)
  | "MissingKey" =>
    let get ← content.strings? ["key"]
    return missingKey (← get "key")
  | "DivisionByZero" => if content.isEmptyCause then some divisionByZero else none
  | "Overflow" =>
    let get ← content.strings? ["op"]
    return overflow (← get "op")
  | "LoopControlOutsideLoop" =>
    let get ← content.strings? ["keyword"]
    return outsideLoop (← get "keyword")
  | _ => none

end Failure

namespace TemplateError

/-- A cause of the given kind with what it carries. -/
def cause (kind : String) (members : List (String × Json)) : Json :=
  if members.isEmpty then .string kind else .tagged kind (.object members)

def kind : TemplateError → String
  | flawed _ flaw => "Syntax." ++ flaw.defect.kind
  | unbound _ _ _ => "UndefinedVariable"
  | failed failure _ _ => "Evaluation." ++ failure.kind

def toJson : TemplateError → Json
  | flawed template ⟨place, defect⟩ =>
    .tagged "Syntax" (.object [("column", .int place.column),
      ("kind", cause defect.kind defect.members), ("line", .int place.line),
      ("name", .ofOption template)])
  | unbound name template program =>
    .tagged "UndefinedVariable" (.object [("program", .string program),
      ("template_name", .ofOption template), ("variable_name", .string name)])
  | failed failure template program =>
    .tagged "Evaluation" (.object [("kind", cause failure.kind failure.members),
      ("program", .string program), ("template_name", .ofOption template)])

def flawedOfJson? (content : Json) : Option TemplateError := do
  let members ← content.record? ["name", "line", "column", "kind"]
  let template ← Json.optionalMember? "name" members
  let line ← Json.member? "line" members >>= Json.count?
  let column ← Json.member? "column" members >>= Json.count?
  let (kind, content) ← Json.member? "kind" members >>= Json.cause?
  let defect ← Defect.ofMembers? kind content
  return flawed template ⟨⟨line, column⟩, defect⟩

def unboundOfJson? (content : Json) : Option TemplateError := do
  let members ← content.record? ["variable_name", "template_name", "program"]
  let name ← Json.stringMember? "variable_name" members
  let template ← Json.optionalMember? "template_name" members
  let program ← Json.stringMember? "program" members
  return unbound name template program

def failedOfJson? (content : Json) : Option TemplateError := do
  let members ← content.record? ["kind", "template_name", "program"]
  let (kind, cause) ← Json.member? "kind" members >>= Json.cause?
  let failure ← Failure.ofMembers? kind cause
  let template ← Json.optionalMember? "template_name" members
  let program ← Json.stringMember? "program" members
  return failed failure template program

def ofJson? (j : Json) : Option TemplateError := do
  let (kind, content) ← j.cause?
  match kind with
  | "Syntax" => flawedOfJson? content
  | "UndefinedVariable" => unboundOfJson? content
  | "Evaluation" => failedOfJson? content
  | _ => none

end TemplateError

end Stencil
