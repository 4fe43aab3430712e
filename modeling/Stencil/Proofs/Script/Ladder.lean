import Stencil.Proofs.Script.Climb
import Stencil.Proofs.Script.Opening

/-!
# The ladder of readers

A text that one reader takes for an expression is taken for the same expression by the readers of
looser operators, which find nothing to go on with. A chain of comparisons is the exception:
comparisons do not chain, so their reader stops in front of the second one, and so do all looser
readers, until something else is expected. Otherwise a reader fails only if there are too few levels
for what is written.
-/

namespace Stencil.Script

/-- The cursor stands in front of a comparison that no reader takes up. -/
def Stuck (brackets : Nat) (c : Cursor) : Prop :=
  ∃ d tail, Follows brackets 4 tail ∧ At brackets d tail c

section Stuck

variable {brackets : Nat} {c : Cursor}

theorem Stuck.skipped (h : Stuck brackets c) : Stuck brackets c.skipped := by
  obtain ⟨d, tail, follows, there⟩ := h
  exact ⟨d, tail, follows, (there.skipped follows.solid).1⟩

theorem Stuck.rest_ne_nil (h : Stuck brackets c) : c.skipped.rest ≠ [] := by
  obtain ⟨d, tail, follows, there⟩ := h
  obtain ⟨start, cs, mem, text⟩ := follows.start
  have nonempty : ∀ s ∈ continuations, s.2 ≠ [] := by decide
  rw [(there.skipped follows.solid).2, text]
  simp [nonempty _ mem]

theorem Stuck.not_startsWith (h : Stuck brackets c) {sign : String} {strengths : List Nat}
    (only : strengthsOf sign = strengths) (other : 4 ∉ strengths) :
    c.skipped.startsWith sign = false := by
  obtain ⟨d, tail, follows, there⟩ := h
  exact follows.not_startsWith (there.skipped follows.solid).2 only other

/-- The brackets around it make no difference. -/
theorem Stuck.within {brackets' : Nat} (h : Stuck brackets c) :
    Stuck brackets' { c with brackets := brackets' } := by
  obtain ⟨d, tail, follows, there⟩ := h
  refine ⟨d, tail, ?_, rfl, there.depth, there.rest⟩
  generalize strength : 4 = p at follows ⊢
  cases follows with
  | closer | line | brace => cases strength
  | connective op cs => exact .connective op cs
  | operator op cs => exact .operator op cs
  | position cs => exact .position cs
  | member cs isName => exact .member cs isName

end Stuck

/-- The reader of strength `k` takes a text for an expression if what follows is at most of strength
`n`, and goes on behind it, as deep as the climb `a` tells. In front of a second comparison it may
stop with anything. -/
def Reads (levels brackets k n : Nat) (text : List Char) (e : Expr) (a : Climb) (chained : Bool) :
    Prop :=
  ∀ (fuel : Nat) {d p : Nat} {c : Cursor} {tail : List Char} {Q : Expr → Cursor → Prop}
    {E : Error → Prop}, Enough levels d → Enough fuel d →
    At brackets d (' ' :: text ++ tail) c → Follows brackets p tail → p ≤ n →
    (∀ err, Excuse a chained d err → E err) →
    (∀ f c', d + a.peak ≤ maxDepth → Enough f (d + a.rise) → At brackets (d + a.rise) tail c' →
      Ends (extend (stepAt (expressionWithin levels) k) f e) c' Q E) →
    (k ≤ 4 → chained = true → ∀ e' c', Stuck brackets c' → Q e' c') →
    Ends (readAt (expressionWithin levels) fuel k) c Q E

/-- What follows an operand of a comparison is looser than the comparison, unless comparisons are
chained. -/
def reach (k : Nat) : Nat := if k = 4 then 3 else k

section Reads

variable {levels brackets k n : Nat} {text : List Char} {e : Expr} {a : Climb} {chained : Bool}
variable {E : Error → Prop}

theorem Reads.mono {n' : Nat} (h : Reads levels brackets k n text e a chained) (le : n' ≤ n) :
    Reads levels brackets k n' text e a chained := by
  intro fuel d p c tail Q E room enough there follows bound excused next stuck
  exact h fuel room enough there follows (by omega) excused next stuck

theorem extend_idle {Q : Expr → Cursor → Prop} {c : Cursor} {fuel : Nat} (enough : fuel ≠ 0)
    (h : Q e c) : Ends (extend (fun _ => return none) fuel e) c Q E := by
  obtain ⟨fuel, rfl⟩ := Nat.exists_eq_succ_of_ne_zero enough
  simpa [extend] using h

/-- What is yielded where no step goes on. -/
theorem Ends.of_extend_idle {Q : Expr → Cursor → Prop} {c : Cursor} {fuel : Nat}
    (enough : fuel ≠ 0) (h : Ends (extend (fun _ => return none) fuel e) c Q E) : Q e c := by
  obtain ⟨fuel, rfl⟩ := Nat.exists_eq_succ_of_ne_zero enough
  simpa [extend] using h

/-- A reader that repeats the steps of its strength. -/
theorem Reads.looser_repeated (h : Reads levels brackets (k + 1) n text e a chained) (le : k ≤ n)
    (repeated : ∀ fuel, readAt (expressionWithin levels) fuel k = do
      extend (stepAt (expressionWithin levels) k) (maxDepth + 1)
        (← readAt (expressionWithin levels) (maxDepth + 1) (k + 1))) :
    Reads levels brackets k k text e a chained := by
  intro fuel d p c tail Q E room enough there follows bound excused next stuck
  rw [repeated, Ends.bind_iff]
  refine h _ room (enough_start room.within) there follows (by omega) excused ?_ ?_
  · intro f c' fits enough' there'
    refine extend_stops (stepAt_stops follows (.inr (by omega))) there'
      (fun zero => absurd zero enough'.ne_zero) ?_
    intro c'' there''
    exact next _ c'' fits (enough_start enough'.within) there''
  · rintro loose chains e' c' ⟨d', tail', follows', there'⟩
    refine extend_stops (stepAt_stops follows' (.inr (by omega))) there'
      (fun _ err => excused err (.inl chains)) ?_
    intro c'' there''
    exact stuck (by omega) chains e' c'' ⟨d', tail', follows', there''⟩

/-- The reader of denials finds none. -/
theorem Reads.looser_denied (h : Reads levels brackets 4 n text e a chained) (le : 3 ≤ n)
    (opens : ∀ {p tail}, Follows brackets p tail → Opening brackets 4 (text ++ tail)) :
    Reads levels brackets 3 3 text e a chained := by
  intro fuel d p c tail Q E room enough there follows bound excused next stuck
  have opening := opens follows
  obtain ⟨there', rest⟩ := there.skipped opening.solid
  obtain ⟨fuel, rfl⟩ := Nat.exists_eq_succ_of_ne_zero enough.ne_zero
  show Ends (denied _ (fuel + 1)) c Q E
  rw [denied]
  simp only [Ends.bind_iff, Ends.skipSpace_iff]
  refine opening.acceptNot (by omega) rest ?_
  simp only [Bool.false_eq_true, if_false]
  exact h (fuel + 1) room enough there' follows (by omega) excused next
    fun _ => stuck (by omega)

/-- The reader of comparisons finds none. -/
theorem Reads.looser_comparison (h : Reads levels brackets 5 n text e a chained) (le : 3 ≤ n) :
    Reads levels brackets 4 3 text e a chained := by
  intro fuel d p c tail Q E room enough there follows bound excused next stuck
  show Ends (comparison _) c Q E
  rw [comparison, Ends.bind_iff]
  refine h fuel room enough there follows (by omega) excused ?_ (by omega)
  intro f c' fits enough' there'
  refine extend_stops (stepAt_stops follows (.inr (by omega))) there'
    (fun zero => absurd zero enough'.ne_zero) ?_
  intro c'' there''
  refine (compared_stops follows (by omega) there'').mono ?_ fun _ => False.elim
  rintro _ last ⟨rfl, there⟩
  exact Ends.of_extend_idle enough'.ne_zero (next f last fits enough' there)

/-- The reader of minus signs finds none. -/
theorem Reads.looser_negated (h : Reads levels brackets 8 n text e a chained) (le : 7 ≤ n)
    (opens : ∀ {p tail}, Follows brackets p tail → Opening brackets 8 (text ++ tail)) :
    Reads levels brackets 7 7 text e a chained := by
  intro fuel d p c tail Q E room enough there follows bound excused next stuck
  have opening := opens follows
  obtain ⟨there', rest⟩ := there.skipped opening.solid
  have sign : c.skipped.startsWith "-" = false :=
    opening.not_startsWith rest
      ⟨'-', [], by decide, by decide, by decide, by decide, by decide, by omega⟩
  obtain ⟨fuel, rfl⟩ := Nat.exists_eq_succ_of_ne_zero enough.ne_zero
  show Ends (negated _ (fuel + 1)) c Q E
  rw [negated]
  simp [sign]
  refine h (fuel + 1) room enough there' follows (by omega) excused ?_ (by omega)
  intro f c' fits enough' there''
  refine extend_stops (stepAt_stops follows (.inr (by omega))) there''
    (fun zero => absurd zero enough'.ne_zero) ?_
  intro c'' there
  exact Ends.of_extend_idle enough'.ne_zero (next f c'' fits enough' there)

/-- The next looser reader takes the text for the same expression. -/
theorem Reads.looser (h : Reads levels brackets (k + 1) (reach (k + 1)) text e a chained)
    (le : k < 8)
    (opens : ∀ {p tail}, Follows brackets p tail → Opening brackets (k + 1) (text ++ tail)) :
    Reads levels brackets k (reach k) text e a chained := by
  match k, le with
  | 0, _ => exact h.looser_repeated (by decide) fun _ => rfl
  | 1, _ => exact h.looser_repeated (by decide) fun _ => rfl
  | 2, _ => exact h.looser_repeated (by decide) fun _ => rfl
  | 3, _ => exact h.looser_denied (by decide) opens
  | 4, _ => exact h.looser_comparison (by decide)
  | 5, _ => exact h.looser_repeated (by decide) fun _ => rfl
  | 6, _ => exact h.looser_repeated (by decide) fun _ => rfl
  | 7, _ => exact h.looser_negated (by decide) opens

/-- All looser readers take the text for the same expression. -/
theorem Reads.descend {m : Nat} (h : Reads levels brackets m (reach m) text e a chained)
    (tight : m ≤ 8)
    (opens : ∀ {p tail}, Follows brackets p tail → Opening brackets m (text ++ tail))
    (le : k ≤ m) : Reads levels brackets k (reach k) text e a chained := by
  induction m with
  | zero =>
      obtain rfl : k = 0 := by omega
      exact h
  | succ m ih =>
      rcases Nat.lt_or_eq_of_le le with below | rfl
      · refine ih (h.looser (by omega) opens) (by omega) ?_ (by omega)
        intro p tail follows
        exact (opens follows).mono (by omega)
      · exact h

end Reads

end Stencil.Script
