import Stencil.FreeNames
import Stencil.Program
import Stencil.Render.Run
import Stencil.TemplateError

/-!
# Templates

A template is compiled once and can then be rendered with any number of contexts. It keeps the
source and the markers that it was compiled from, and its program is always the one that they give;
so two templates with the same name, markers and source are equal: `Template.ext`.
-/

namespace Stencil

structure Template where
  /-- The name that errors mention. -/
  name : Option String
  markers : Markers
  source : String
  program : Program
  compiled : Program.ofSource markers source.toList = .ok program

namespace Template

/-- The program is determined by the rest. -/
theorem ext {s t : Template} (name : s.name = t.name) (markers : s.markers = t.markers)
    (source : s.source = t.source) : s = t := by
  obtain ⟨n, m, src, p, hp⟩ := s
  obtain ⟨n', m', src', p', hp'⟩ := t
  obtain rfl : n = n' := name
  obtain rfl : m = m' := markers
  obtain rfl : src = src' := source
  obtain rfl : p = p' := Except.ok.inj (hp.symm.trans hp')
  rfl

def compile (name : Option String) (markers : Markers) (source : String) :
    Except TemplateError Template :=
  match h : Program.ofSource markers source.toList with
  | .ok program => .ok ⟨name, markers, source, program, h⟩
  | .error flaw => .error (.flawed name flaw)

theorem compile_of_ofSource {name : Option String} {m : Markers} {source : String} {p : Program}
    (made : Program.ofSource m source.toList = .ok p) :
    compile name m source = .ok ⟨name, m, source, p, made⟩ := by
  rw [compile]
  split
  · next q made' =>
    cases made.symm.trans made'
    rfl
  · next flaw failed => cases made.symm.trans failed

theorem compile_of_flaw {name : Option String} {m : Markers} {source : String} {flaw : Flaw}
    (failed : Program.ofSource m source.toList = .error flaw) :
    compile name m source = .error (.flawed name flaw) := by
  rw [compile]
  split
  · next p made => cases made.symm.trans failed
  · next flaw' failed' =>
    cases failed.symm.trans failed'
    rfl

/-- What is compiled keeps all that it was compiled from, and is the only template that does. -/
theorem compile_eq_ok {name : Option String} {m : Markers} {source : String} {t : Template} :
    compile name m source = .ok t ↔ t.name = name ∧ t.markers = m ∧ t.source = source := by
  constructor
  · intro compiled
    cases made : Program.ofSource m source.toList with
    | error flaw => cases compiled.symm.trans (compile_of_flaw made)
    | ok p =>
      cases compiled.symm.trans (compile_of_ofSource made)
      exact ⟨rfl, rfl, rfl⟩
  · rintro ⟨rfl, rfl, rfl⟩
    exact compile_of_ofSource t.compiled

/-- The text of the program. -/
def dump (t : Template) : String := t.program.text

/-- The names that the template reads, does not bind itself and does not find in the context, in
the order of their first use. -/
def requiredNames (t : Template) (context : Context) : List String :=
  t.program.freeNames.filter fun name => !context.contains name

/-- The error of a render that stopped. -/
def errorOf (t : Template) : Stop → TemplateError
  | .unbound name => .unbound name t.name t.dump
  | .failed failure => .failed failure t.name t.dump

/-- Renders the template: its text, or the error that stopped it. There is no outcome if a
conditional loop goes on for `limit` rounds. -/
def render (t : Template) (context : Context) (limit : Nat) :
    Option (Except TemplateError String) :=
  (t.program.run context limit).map fun result => result.mapError t.errorOf

end Template

end Stencil
