import Stencil.Proofs.Script.Idle
import Stencil.Proofs.Script.Names
import Stencil.Proofs.Script.Results
import Stencil.Proofs.Script.Strings

/-!
# Numbers in a program text

A number that has been read is written as a number, and is read back from there as itself, both by
the reader of numbers and as a complete expression. The exception is a decimal that is out of the
range of floats. It is infinity, which is written as a word, and the word is read as a name.
-/

namespace Stencil

/-- Whether a literal is no float that is infinite or no number. -/
def Literal.IsFinite : Literal → Prop
  | .float x => Decimal.IsFinite x
  | _ => True

def Literal.infinity : Literal := .float (Decimal.infinity false)

theorem Literal.chars_infinity : Literal.infinity.chars = ['i', 'n', 'f'] := by decide +kernel

namespace Script

variable {c c' : Cursor} {l : Literal}

/-- What is read as a number is readable, or infinity. -/
theorem number_isReadable : Yields number c fun l _ =>
    l.IsNumber ∧ (l.IsFinite → l.IsReadable) ∧ (¬l.IsFinite → l = Literal.infinity) := by
  have unsigned : Yields number c fun l _ => l.IsUnsigned := number_isUnsigned
  simp only [number, digitRow, Yields.bind_iff, Yields.look_iff, Yields.unseen_iff,
    Yields.passWhile_iff, Yields.pure_iff, Yields.ite_iff, Yields.throw_iff] at unsigned ⊢
  refine ⟨fun pointed => ?_, fun whole => ⟨by simp, fun fits => ?_⟩⟩
  · refine ⟨trivial, fun finite => ?_, fun other => ?_⟩
    · exact Literal.isReadable_float (unsigned.1 pointed) finite
    · exact congrArg Literal.float (Decimal.eq_infinity (Decimal.toBits_ofDecimal_le _ _) other)
  · exact ⟨trivial, fun _ => (unsigned.2 whole).2 fits, fun other => absurd trivial other⟩

/-- A written number is a complete expression. -/
theorem readExpression_number (isNumber : l.IsNumber) (readable : l.IsReadable) :
    readExpression l.chars = .ok (.literal l) := by
  obtain ⟨row, cs, digits, chars⟩ := readable.row isNumber
  obtain ⟨x, xs, rfl⟩ := List.exists_cons_of_ne_nil digits.1
  have plain : Plain ⟨l.chars, .start, 1, 1⟩ := plain_digit (digits.2 x (by simp)) chars
  refine readExpression_primary plain ?_
  refine primary_written isNumber readable rfl rfl ⟨rfl, rfl, .inr ?_⟩ fun c' there => ⟨rfl, there⟩
  rw [List.append_nil]

/-- The word for infinity is a name. -/
theorem readExpression_infinity : readExpression Literal.infinity.chars = .ok (.var "inf") := by
  have isName : IsName "inf" :=
    ⟨by decide, List.all_eq_true.1 (by decide), by decide, by decide⟩
  rw [Literal.chars_infinity]
  refine readExpression_primary (plain_name isName rfl (List.append_nil _).symm) ?_
  exact primary_var isName rfl ⟨rfl, rfl, .inr rfl⟩ fun c' there => ⟨rfl, there⟩

/-- A decimal that is a whole text is read to its end. -/
theorem number_run_pointed {whole fraction : List Char} (hw : Decimal.IsRow whole)
    (hf : Decimal.IsRow fraction) :
    (number : Parse Literal).run.run (.start (whole ++ '.' :: fraction)) =
      (.ok (.float (Decimal.ofDecimal false (whole ++ fraction) (-fraction.length))),
        ⟨[], Location.start.after (whole ++ '.' :: fraction), 0, 0⟩) := by
  have parts : (Cursor.start (whole ++ '.' :: fraction)).rest =
      whole ++ '.' :: (fraction ++ []) := by
    rw [List.append_nil]
    rfl
  refine run_of_moved (number_keeps (lasting_moved _)) (List.append_nil _).symm ?_
  exact number_pointed hw hf rfl parts fun c' within atDepth left => ⟨rfl, within, atDepth, left⟩

/-- A number that has been read is read back from its text, all of it, as a number and as a complete
expression, unless it was out of range: infinity is written as a name. -/
theorem number_chars (read : (number : Parse Literal).run.run c = (.ok l, c')) :
    (l.IsFinite →
      (number : Parse Literal).run.run (.start l.chars) =
          (.ok l, ⟨[], Location.start.after l.chars, 0, 0⟩) ∧
        readExpression l.chars = .ok (.literal l)) ∧
    (¬l.IsFinite →
      l = Literal.infinity ∧ l.chars = ['i', 'n', 'f'] ∧
        readExpression l.chars = .ok (.var "inf")) := by
  obtain ⟨isNumber, readable, infinite⟩ := number_isReadable l c' read
  refine ⟨fun finite => ⟨?_, readExpression_number isNumber (readable finite)⟩, fun other => ?_⟩
  · have all : (Cursor.start l.chars).rest = l.chars ++ [] := (List.append_nil _).symm
    exact run_of_moved (number_keeps (lasting_moved _)) all
      (number_back isNumber (readable finite) rfl rfl all fun c' within atDepth left =>
        ⟨rfl, within, atDepth, left⟩)
  · obtain rfl := infinite other
    exact ⟨rfl, Literal.chars_infinity, readExpression_infinity⟩

/-- A one with 309 zeros and a decimal place is a number, but it is written as a name. -/
theorem number_chars_huge :
    ∃ l c', (number : Parse Literal).run.run
          (.start (('1' :: List.replicate 309 '0') ++ '.' :: ['0'])) = (.ok l, c') ∧
      ¬l.IsFinite ∧ readExpression l.chars = .ok (.var "inf") := by
  have digits : Decimal.IsRow ('1' :: List.replicate 309 '0') :=
    ⟨List.cons_ne_nil _ _, List.all_eq_true.1 (by decide +kernel)⟩
  have zero : Decimal.IsRow ['0'] := ⟨by decide, List.all_eq_true.1 (by decide)⟩
  have read := number_run_pointed digits zero
  have decoded : Decimal.decode (Decimal.ofDecimal false
      ('1' :: List.replicate 309 '0' ++ ['0']) (-(['0'].length : Nat))) = .infinite false := by
    decide +kernel
  have infinite : ¬Literal.IsFinite (.float (Decimal.ofDecimal false
      ('1' :: List.replicate 309 '0' ++ ['0']) (-(['0'].length : Nat)))) := by
    rintro ⟨negative, magnitude, finite⟩
    rw [decoded] at finite
    cases finite
  exact ⟨_, _, read, infinite, ((number_chars read).2 infinite).2.2⟩

end Script

end Stencil
