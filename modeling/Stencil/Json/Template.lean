import Stencil.Format.Template
import Stencil.Json.Format

/-!
# Templates as JSON

Markers and templates are records, written with their members in the order of the fields. A record
in which a name comes twice is refused. There are two errors with a text: that there is no source,
and that the source does not compile.
-/

namespace Stencil

namespace Markers

def toJson (m : Markers) : Json := .object (m.members Json.format)

/-- Reads a string of one character. -/
def quoteOfJson? (j : Json) : Option Char := j.char?

/-- Reads markers, all of which have to be there. -/
def ofJson? (j : Json) : Option Markers := do
  let members ← j.record? ["statement", "partial", "variable", "quote"]
  ofFields? Json.format (Json.member? · members)

def json : Codec Json Markers := ⟨toJson, ofJson?⟩

end Markers

inductive LoadError where
  /-- It is no saved template at all. -/
  | malformed
  | missingSource
  | custom (text : String)

namespace LoadError

def message : LoadError → String
  | malformed => ""
  | missingSource => "missing field `source`"
  | custom text => text

end LoadError

namespace Template

def toJson (t : Template) : Json := .object (t.members Json.format Markers.json)

/-- Reads what a template is to be compiled from. -/
def savedOfJson (j : Json) : Except LoadError Saved := do
  let some members := j.record? ["name", "syntax", "source"] | throw .malformed
  let get := (Json.member? · members)
  let some name := (Json.format.optional Json.format.string).defaulted? none get "name"
    | throw .malformed
  let some markers := Markers.json.defaulted? {} get "syntax" | throw .malformed
  if (get "source").isNone then throw .missingSource
  let some source := Json.format.string.required? get "source" | throw .malformed
  return { name, markers, source }

def ofJson (j : Json) : Except LoadError Template := load savedOfJson .custom j

end Template

end Stencil
