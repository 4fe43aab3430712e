import Stencil.Failure
import Stencil.Flaw

/-!
# Errors of templates

A template that cannot be compiled has a flaw; one that is rendered may read a name that nothing
binds, or fail. An error tells which template it comes from, and an error of a render also carries
the text of the program that was running.
-/

namespace Stencil

inductive TemplateError where
  | flawed (template : Option String) (flaw : Flaw)
  | unbound (name : String) (template : Option String) (program : String)
  | failed (failure : Failure) (template : Option String) (program : String)
deriving DecidableEq

namespace TemplateError

def templateName : Option String → String
  | some name => "'" ++ name ++ "'"
  | none => "<anonymous>"

def message : TemplateError → String
  | flawed template flaw =>
    "Syntax error in " ++ templateName template ++ " at line " ++ Failure.number flaw.place.line ++
      ", column " ++ Failure.number flaw.place.column ++ ": " ++ flaw.defect.message
  | unbound name template _ =>
    "Undefined variable '" ++ name ++ "' while rendering " ++ templateName template
  | failed failure template _ =>
    "Evaluation error while rendering " ++ templateName template ++ ": " ++ failure.message

def program? : TemplateError → Option String
  | flawed _ _ => none
  | unbound _ _ program => some program
  | failed _ _ program => some program

end TemplateError

end Stencil
