import Stencil.Proofs.Render.Sequence
import Stencil.Proofs.Source.Fragments

/-!
# One source after another

A source of two halves between which no delimiter stands has the program of the first half followed
by that of the second. Only text is joined at the seam, which makes no difference to a run.
-/

namespace Stencil

namespace Program

/-- Two programs one after the other, where text that ends the first may have been joined with text
that starts the second. -/
inductive Joined : Program → Program → Program → Prop
  | append (p q : Program) : Joined p q (p ++ q)
  | merge (p q : Program) (a b : String) :
      Joined (p ++ [.emitText a]) (.emitText b :: q) (p ++ .emitText (a ++ b) :: q)

theorem joined_text {ps qs : List Part} {a b : List Char} {p q : Program}
    (hp : ofParts none (ps ++ [.text a]) = .ok p) (hq : ofParts none (.text b :: qs) = .ok q) :
    ∃ r, ofParts none (ps ++ .text (a ++ b) :: qs) = .ok r ∧ Joined p q r := by
  obtain ⟨after, first, second, ended, rfl, any⟩ := ofParts_split hp
  obtain ⟨nothing, atEnd, rfl⟩ := ofParts_text.1 ended
  cases atEnd
  obtain ⟨rest, remaining, rfl⟩ := ofParts_text.1 hq
  refine ⟨_, any _ _ (ofParts_text.2 ⟨rest, remaining, rfl⟩), ?_⟩
  rw [String.ofList_append, ← List.append_assoc, ← List.append_assoc]
  exact .merge (first ++ Chain.flush after) rest _ _

section Runs

variable {context : Context} {limit : Nat}

theorem outcome_emitText (text : String) (q : Program) (s : State) :
    (runBlock context limit (.emitText text :: q)).outcome s =
      (runBlock context limit q).outcome (s.write text) := by
  rw [runBlock_cons, Stmt.run]
  rfl

/-- It makes no difference to a run whether text is joined. -/
theorem Joined.outcome {p q r : Program} (h : Joined p q r) (s : State) :
    (runBlock context limit r).outcome s = (runBlock context limit (p ++ q)).outcome s := by
  cases h with
  | append => rfl
  | merge p q a b =>
      have same : runBlock context limit (.emitText (a ++ b) :: q) =
          runBlock context limit (.emitText a :: .emitText b :: q) := by
        funext t
        have twice : (runBlock context limit (.emitText a :: .emitText b :: q)).outcome t =
            (runBlock context limit q).outcome (t.write (a ++ b)) := by
          rw [outcome_emitText, outcome_emitText, State.write_write]
        exact (outcome_emitText (a ++ b) q t).trans twice.symm
      rw [List.append_assoc, runBlock_append, runBlock_append, same]
      rfl

end Runs

/-- Two sources of which each is a template, with no delimiter across the seam, are a template
together. Its program is that of the one followed by that of the other, text at the seam joined,
and a render runs the one and then the other in the state that the first leaves. -/
theorem ofSource_append {m : Markers} {A B : List Char} {p q : Program}
    (hp : ofSource m A = .ok p) (hq : ofSource m B = .ok q) (apart : m.Apart A B) :
    ∃ r, ofSource m (A ++ B) = .ok r ∧ Joined p q r ∧
      ∀ context limit s, s.loops = 0 → (runBlock context limit r).outcome s =
        (do
          let _ ← runBlock context limit p
          runBlock context limit q).outcome s := by
  suffices compiled : ∃ r, ofSource m (A ++ B) = .ok r ∧ Joined p q r by
    obtain ⟨r, ok, joined⟩ := compiled
    refine ⟨r, ok, joined, ?_⟩
    intro context limit s outside
    rw [joined.outcome, runBlock_append_outside p q s outside]
  obtain ⟨tokens, parts, scanned, built, made⟩ := ofSource_eq_ok.1 hp
  obtain ⟨tokens', parts', scanned', built', made'⟩ := ofSource_eq_ok.1 hq
  obtain ⟨before, pending, rfl, continued⟩ :=
    Token.scanFrom_append apart (Nat.zero_le _) scanned
  obtain ⟨more, glued, bare⟩ := Token.scanFrom_glue (Location.start.after A) rfl
    (Token.heldText_merge_none pending) scanned'
  have whole : Token.scan m (A ++ B) = .ok (before ++ more) := by
    rw [Token.scan, continued, glued]
    rfl
  obtain ⟨ps, rfl, further⟩ := Progress.build_append built
  rcases Progress.build_glue bare built' ps with ⟨own, same, joint⟩ | joint
  · refine ⟨p ++ q, ofSource_eq_ok.2 ⟨_, _, whole, (further more).trans joint, ?_⟩, .append p q⟩
    exact ofParts_append made (ofParts_same same made')
  · obtain ⟨a, b, own, own', held, nonempty, rfl, same, joint⟩ := joint
    have last : (Part.addText a ps).reverse = ps.reverse ++ [.text a] := by
      simp [Part.addText, nonempty]
    rw [held, Option.getD_some, last] at made
    obtain ⟨r, ok, joined⟩ := joined_text made (ofParts_same (.cons (.text b) same) made')
    exact ⟨r, ofSource_eq_ok.2 ⟨_, _, whole, (further more).trans joint, ok⟩, joined⟩

/-- The comma that ends the first source and the greeting that is the second are joined. -/
theorem ofSource_append_greeting :
    ofSource {} "\x7b\x7b x \x7d\x7d, ".toList = .ok [.emit (.var "x"), .emitText ", "] ∧
      ofSource {} "hi".toList = .ok [.emitText "hi"] ∧
      ∃ r, ofSource {} ("\x7b\x7b x \x7d\x7d, ".toList ++ "hi".toList) = .ok r ∧
        Joined [.emit (.var "x"), .emitText ", "] [.emitText "hi"] r := by
  have second : ofSource {} "hi".toList = .ok [.emitText "hi"] := rfl
  have first : ofSource {} "\x7b\x7b x \x7d\x7d, ".toList =
      .ok [.emit (.var "x"), .emitText ", "] := by cbv
  have apart : Markers.Apart {} "\x7b\x7b x \x7d\x7d, ".toList "hi".toList := by
    intro marker
    change ∀ n, n < 9 → _
    cases marker <;> decide +kernel
  obtain ⟨r, ok, joined, -⟩ := ofSource_append first second apart
  exact ⟨first, second, r, ok, joined⟩

end Program

end Stencil
