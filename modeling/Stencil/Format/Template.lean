import Stencil.Format.Basic
import Stencil.Template

/-!
# Templates in a format

A saved template holds its name, its markers and its source. The program is not saved: loading
compiles the source again, so a template is loaded exactly when it compiles.
-/

namespace Stencil

variable {Doc : Type}

/-- A field that has to be there. -/
def Codec.required? {α : Type} (c : Codec Doc α) (get : String → Option Doc) (name : String) :
    Option α :=
  (get name).bind c.read?

/-- A field that has a default, which counts if there is no member of that name. -/
def Codec.defaulted? {α : Type} (c : Codec Doc α) (default : α) (get : String → Option Doc)
    (name : String) : Option α :=
  match get name with
  | some d => c.read? d
  | none => some default

/-- The writer and the reader of two delimiters. -/
def Delimiters.codec (f : Format Doc) : Codec Doc Delimiters where
  write d := (f.pair f.string f.string).write (d.opening, d.closing)
  read? doc := ((f.pair f.string f.string).read? doc).map fun p => ⟨p.1, p.2⟩

namespace Markers

/-- The members of the object that markers are written as. -/
def members (f : Format Doc) (m : Markers) : List (String × Doc) :=
  [("statement", (Delimiters.codec f).write m.statement),
    ("partial", (Delimiters.codec f).write m.block),
    ("variable", (Delimiters.codec f).write m.expression),
    ("quote", f.char.write m.quote)]

/-- The markers of an object, all of which have to be there. -/
def ofFields? (f : Format Doc) (get : String → Option Doc) : Option Markers := do
  let statement ← (Delimiters.codec f).required? get "statement"
  let block ← (Delimiters.codec f).required? get "partial"
  let expression ← (Delimiters.codec f).required? get "variable"
  let quote ← f.char.required? get "quote"
  return { statement, block, expression, quote }

/-- Markers are written and read as a record. -/
structure Recorded (f : Format Doc) (markers : Codec Doc Markers) : Prop where
  write_eq m : markers.write m = f.object (members f m)
  read?_object fields : (fields.map Prod.fst).Nodup →
    ∀ m, ofFields? f (Entries.find? · fields) = some m → markers.read? (f.object fields) = some m

end Markers

namespace Template

/-- What a saved template says that it is to be compiled from. -/
structure Saved where
  name : Option String
  markers : Markers
  source : String

/-- What the members of an object say. The name and the markers may be left out. -/
def Saved.ofFields? (f : Format Doc) (markers : Codec Doc Markers) (get : String → Option Doc) :
    Option Saved := do
  let name ← (f.optional f.string).defaulted? none get "name"
  let given ← markers.defaulted? {} get "syntax"
  let source ← f.string.required? get "source"
  return { name, markers := given, source }

/-- The members of the object that a template is written as. The program is skipped. -/
def members (f : Format Doc) (markers : Codec Doc Markers) (t : Template) : List (String × Doc) :=
  [("name", (f.optional f.string).write t.name), ("syntax", markers.write t.markers),
    ("source", f.string.write t.source)]

/-- A template is written as a record, and so is what is read of one before it is compiled. -/
structure Recorded {E : Type} (f : Format Doc) (markers : Codec Doc Markers)
    (save : Template → Doc) (saved : Doc → Except E Saved) : Prop where
  save_eq t : save t = f.object (members f markers t)
  saved_object fields : (fields.map Prod.fst).Nodup →
    ∀ s, Saved.ofFields? f markers (Entries.find? · fields) = some s →
      saved (f.object fields) = .ok s

/-- Loads a template: compiles what a document holds. The error of a source that does not compile
is made of the text of that error. -/
def load {E : Type} (saved : Doc → Except E Saved) (custom : String → E) (d : Doc) :
    Except E Template := do
  let s ← saved d
  (compile s.name s.markers s.source).mapError fun e =>
    custom ("Failed to compile template: " ++ e.message)

end Template

end Stencil
