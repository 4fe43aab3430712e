import Stencil.Proofs.Script.Results
import Stencil.Proofs.Script.Statements
import Stencil.Template

/-!
# The text of a template

The text of a compiled template can be read as statements. If the reader takes it, which it does not
where comparisons are chained or too deep, the statements are those of the template with output
written as calls, and do the same.
-/

namespace Stencil

/-- What a template is compiled to can be written down, if its floats are finite. -/
theorem Template.isLegible (t : Template)
    (finite : ∀ x, Literal.float x ∈ t.program.literals → Decimal.IsFinite x) :
    BlockIsLegible Literal.IsReadable t.program := by
  have unsigned := Program.ofSource_isLegible t.compiled
  refine ⟨unsigned.names, ?_⟩
  intro l mem
  cases l with
  | float x =>
      exact Literal.isReadable_float (unsigned.literals _ mem) (finite x mem)
  | int i => exact unsigned.literals _ mem
  | none => trivial
  | bool b => trivial
  | string s => trivial

/-- The text of a template with finite floats is never read as another program: what it is read as
has the calls that the text shows for output, is the program of the template in everything else, and
comes to the same with every context. -/
theorem Template.eq_asCalls_of_readStatements_dump (t : Template)
    (finite : ∀ x, Literal.float x ∈ t.program.literals → Decimal.IsFinite x)
    {q : Program} (read : Script.readStatements t.dump.toList = .ok q) :
    q = t.program.asCalls ∧
      ∀ context limit, q.run context limit = t.program.run context limit := by
  have same : q = t.program.asCalls :=
    Program.asCalls_of_readStatements (t.isLegible finite) read
  refine ⟨same, ?_⟩
  intro context limit
  rw [same, Program.run_asCalls]

/-- A template with a float, and with operands that need parentheses. -/
def Template.priced : Template where
  name := none
  markers := {}
  source := "//: if not sold and price > 0.0\n\x7b\x7b 2 * (price - 1) \x7d\x7d//!"
  program :=
    [.branch (.connect .and (.unary .not (.var "sold"))
        (.binary (.compare .gt) (.var "price") (.literal (.float (Float.ofBits 0)))))
      [.emit (.binary (.arith .mul) (.literal (.int 2))
        (.binary (.arith .sub) (.var "price") (.literal (.int 1))))]
      .nothing]
  compiled := by cbv

set_option maxRecDepth 4000 in
/-- The text is taken, and read as the same program. -/
theorem Template.priced_dump :
    Script.readStatements Template.priced.dump.toList = .ok Template.priced.program.asCalls ∧
      (∀ x, Literal.float x ∈ Template.priced.program.literals → Decimal.IsFinite x) ∧
      ∀ context limit,
        Template.priced.program.asCalls.run context limit =
          Template.priced.program.run context limit := by
  have literals : Template.priced.program.literals =
      [.float (Float.ofBits 0), .int 2, .int 1] := rfl
  have zero {x : Float} (mem : Literal.float x ∈ Template.priced.program.literals) :
      x = Float.ofBits 0 := by
    simpa [literals] using mem
  have finite : ∀ x, Literal.float x ∈ Template.priced.program.literals → Decimal.IsFinite x := by
    intro x mem
    rw [zero mem]
    exact ⟨false, ⟨0, Decimal.leastExponent⟩, rfl⟩
  have text : Template.priced.dump =
      "if not sold and price > 0.0 \x7b\n    emit_value(2 * (price - 1))\n\x7d\n" := by
    decide +kernel
  have read : Script.readStatements Template.priced.dump.toList =
      .ok Template.priced.program.asCalls := by
    rw [text]
    cbv
  exact ⟨read, finite,
    (Template.eq_asCalls_of_readStatements_dump Template.priced finite read).2⟩

end Stencil
