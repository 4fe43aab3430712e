import Stencil.Proofs.Script.Keeps
import Stencil.Proofs.Script.Literals

/-!
# Strings in a program text

A string is written within one line, whatever characters it has, and between the same quotes where
it is output. The reader of strings gets it back from there and stops behind the closing quote, so
nothing that follows is taken for a part of it.
-/

namespace Stencil

namespace Text.Quoted

/-- No escape has a line break in it. -/
theorem newline_not_mem_escape (x : Char) : '\n' ∉ escape x := by
  unfold escape
  split
  · decide
  split
  · decide
  split
  · decide
  split
  · decide
  split
  · decide
  split
  · decide
  · next plain _ _ =>
    split
    · have noDigit : '\n' ∉ Nat.toDigits 16 x.toNat := fun digit =>
        absurd ((Script.hex_toDigits x.toNat).1 _ digit) (by decide)
      simp [byCodePoint, noDigit]
    · simpa [eq_comm] using plain

theorem newline_not_mem_encode (cs : List Char) : '\n' ∉ encode cs := by
  simp [encode, newline_not_mem_escape]

end Text.Quoted

namespace Script

/-- The cursor is where another one is after some characters. -/
def Moved (c c' : Cursor) : Prop := ∃ n, c'.rest = (c.pass n).rest ∧ c'.place = (c.pass n).place

/-- A reader moves its cursor only by passing characters. -/
theorem lasting_moved (c : Cursor) : Lasts (Moved c) := by
  refine .of_place ?_ ?_ fun _ _ => trivial
  · rintro c' c'' ⟨n, rest, place⟩ same same'
    exact ⟨n, same.trans rest, same'.trans place⟩
  · rintro c' ⟨n, rest, place⟩ m
    refine ⟨n + m, ?_, ?_⟩
    · rw [← Cursor.pass_pass, Cursor.rest_pass, Cursor.rest_pass (c.pass n), rest]
    · rw [← Cursor.pass_pass]
      exact congrArg₂ (fun place rest => Location.after place (rest.take m)) place rest

/-- What has been passed is what stands in front of the text that is left. -/
theorem Moved.place {c c' : Cursor} {passed tail : List Char} (moved : Moved c c')
    (rest : c.rest = passed ++ tail) (left : c'.rest = tail) :
    c'.place = c.place.after passed := by
  obtain ⟨n, rest', place⟩ := moved
  have parts : c.rest.take n ++ tail = passed ++ tail := by
    rw [← rest, ← left, rest', Cursor.rest_pass, List.take_append_drop]
  rw [place, ← List.append_cancel_right parts]
  rfl

/-- How a reader runs that passes characters to yield something behind them. -/
theorem run_of_moved {α : Type} {p : Parse α} {a : α} {c : Cursor} {passed tail : List Char}
    (keeps : KeepsTo (Moved c) p) (rest : c.rest = passed ++ tail)
    (back : Ends p c
      (fun a' c' => a' = a ∧ c'.brackets = c.brackets ∧ c'.depth = c.depth ∧ c'.rest = tail)
      fun _ => False) :
    p.run.run c = (.ok a, ⟨tail, c.place.after passed, c.brackets, c.depth⟩) := by
  unfold Ends at back
  split at back
  · next a' c' ran =>
    obtain ⟨rfl, within, atDepth, left⟩ := back
    have moves := keeps.yields ⟨0, rfl, rfl⟩ a' c' ran
    rw [ran, ← within, ← atDepth, ← moves.place rest left, ← left]
  · cases back

/-- A string is written without line breaks, in the same way where it is output, and whatever
follows, the reader of strings yields it and stops behind the closing quote. -/
theorem quoted_chars (s : String) (tail : List Char) (place : Location) (brackets depth : Nat) :
    (∀ level, (Stmt.emitText s).chars level =
      Stmt.callText "emit_literal" (Literal.string s).chars) ∧
    '\n' ∉ (Literal.string s).chars ∧
    (quoted '"' : Parse String).run.run ⟨(Literal.string s).chars ++ tail, place, brackets, depth⟩ =
      (.ok s, ⟨tail, place.after (Literal.string s).chars, brackets, depth⟩) := by
  refine ⟨fun _ => rfl, Text.Quoted.newline_not_mem_encode _, ?_⟩
  exact run_of_moved (quoted_keeps (lasting_moved _) '"') rfl
    (quoted_exact rfl fun c' within atDepth left => ⟨rfl, within, atDepth, left⟩)

end Script

end Stencil
