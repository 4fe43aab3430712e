import Stencil.Proofs.Script.Breaks

/-!
# Brackets in a text that goes on

What stands in brackets, once these are closed, is the same whatever follows them: a reader inside
them has not passed the closing bracket. So a text that goes on where another one ends has the same
brackets in it, and nothing but the characters behind the closing one is different.
-/

namespace Stencil.Script

/-- The text goes on with `tail` in front of the second cursor. All else is as for the first. -/
structure Extended (tail : List Char) (c d : Cursor) : Prop where
  rest : d.rest = c.rest ++ tail
  brackets : c.brackets = d.brackets
  depth : c.depth = d.depth

theorem gapLength_le (blank : Char → Bool) : ∀ (comment : Bool) (text : List Char),
    gapLength blank comment text ≤ text.length
  | _, [] => Nat.le_refl 0
  | comment, x :: text => by
    have marked := gapLength_le blank true text
    have plain := gapLength_le blank false text
    rw [gapLength, List.length_cons]
    split <;> (try split) <;> omega

/-- A gap that ends in a text ends there whatever follows. -/
theorem gapLength_append {blank : Char → Bool} {tail : List Char} :
    ∀ {comment : Bool} {text : List Char}, gapLength blank comment text < text.length →
      gapLength blank comment (text ++ tail) = gapLength blank comment text
  | _, [], ends => absurd ends (Nat.lt_irrefl 0)
  | comment, x :: text, ends => by
    rw [gapLength, List.length_cons] at ends
    rw [List.cons_append, gapLength, gapLength]
    split
    · next commented =>
      rw [if_pos commented] at ends
      rw [gapLength_append (Nat.lt_of_succ_lt_succ ends)]
    · next inText =>
      rw [if_neg inText] at ends
      split
      · next space =>
        rw [if_pos space] at ends
        rw [gapLength_append (Nat.lt_of_succ_lt_succ ends)]
      · rfl

namespace Extended

variable {tail : List Char} {c d : Cursor}

theorem pass (h : Extended tail c d) {n : Nat} (fits : n ≤ c.rest.length) :
    Extended tail (c.pass n) (d.pass n) where
  rest := by rw [Cursor.rest_pass, Cursor.rest_pass, h.rest, List.drop_append_of_le_length fits]
  brackets := h.brackets
  depth := h.depth

/-- Blanks that do not reach the end of the first text are the same in the second one. -/
theorem skipped (h : Extended tail c d) (more : c.skipped.rest ≠ []) :
    Extended tail c.skipped d.skipped := by
  rw [Cursor.skipped, Cursor.rest_pass, ne_eq, List.drop_eq_nil_iff, Nat.not_le] at more
  rw [Cursor.skipped, Cursor.skipped, ← h.brackets, h.rest, gapLength_append more]
  exact h.pass more.le

theorem startsWith (h : Extended tail c d) {sign : String} (found : c.startsWith sign) :
    d.startsWith sign := by
  rw [Cursor.startsWith, List.isPrefixOf_iff_prefix] at found ⊢
  rw [h.rest]
  exact found.trans (List.prefix_append _ _)

/-- A sign can be passed where it is found. -/
theorem pass_sign (h : Extended tail c d) {sign : String} (found : c.startsWith sign) :
    Extended tail (c.pass sign.length) (d.pass sign.length) := by
  refine h.pass ?_
  rw [Cursor.startsWith, List.isPrefixOf_iff_prefix] at found
  rw [← String.length_toList]
  exact found.length_le

theorem within (h : Extended tail c d) {m n : Nat} (same : m = n) :
    Extended tail { c with brackets := m } { d with brackets := n } :=
  ⟨h.rest, same, h.depth⟩

end Extended

/-! ### The seam at a closing bracket -/

/-- Two cursors inside brackets that `closer` closes, in texts of which one goes on behind the
other. -/
structure AtCloser (closer : Char) (behind tail : List Char) (c d : Cursor) : Prop where
  inside : 0 < c.brackets
  extended : Extended tail c d
  closes : closer :: behind <:+ c.rest

section AtCloser

variable {x : Char} {behind tail : List Char} {c d : Cursor}

/-- The closing bracket is in front of the cursors until they pass it. -/
theorem AtCloser.moved {c' d' : Cursor} (h : AtCloser x behind tail c d)
    (extended : Extended tail c' d') (same : c'.brackets = c.brackets) (suffix : c'.rest <:+ c.rest)
    (inFront : behind.length + 1 ≤ c'.rest.length) : AtCloser x behind tail c' d' :=
  ⟨same ▸ h.inside, extended, List.suffix_of_suffix_length_le h.closes suffix inFront⟩

def Seam.atCloser (x : Char) (closer : x = ')' ∨ x = ']') (behind tail : List Char) : Seam where
  Meets := AtCloser x behind tail
  floor := behind.length + 1
  loose := False
  level h := .inr h.extended.depth
  depth h _ _ level :=
    ⟨h.inside, ⟨h.extended.rest, h.extended.brackets, level.resolve_left id⟩, h.closes⟩
  pass {c d} h n fits := by
    refine h.moved (h.extended.pass (by omega)) rfl (List.drop_suffix n _) ?_
    rw [Cursor.rest_pass, List.length_drop]
    omega
  skipped {c d} h inFront := by
    have more : c.skipped.rest ≠ [] := by
      rintro none
      rw [none] at inFront
      exact absurd inFront (Nat.not_succ_le_zero _)
    exact h.moved (h.extended.skipped more) rfl (List.drop_suffix _ _) inFront
  length h := by
    refine ⟨h.closes.length_le, ?_⟩
    rw [h.extended.rest, List.length_append]
    exact Nat.le_add_right _ _
  head {c d} h more := by
    rw [h.extended.rest, List.head?_append_of_ne_nil]
    rintro none
    rw [none] at more
    cases more
  line {c d} h := by
    obtain ⟨common, rest⟩ := h.closes
    have stops (cs : List Char) : (x :: cs).takeWhile isInner = [] := by
      rw [List.takeWhile_cons, isInner_closer closer]
      rfl
    rw [h.extended.rest, ← rest, List.append_assoc, List.cons_append, takeWhile_cut (stops _),
      takeWhile_cut (stops _), List.length_append, List.length_cons]
    exact ⟨rfl, Nat.add_le_add_right (List.takeWhile_prefix isInner).length_le _⟩

theorem Seam.nests_atCloser (closer : x = ')' ∨ x = ']') (behind tail : List Char) :
    (Seam.atCloser x closer behind tail).Nests where
  inside h := h.inside
  enter h := ⟨Nat.succ_pos _, h.extended.within (congrArg (· + 1) h.extended.brackets), h.closes⟩
  leave h h' := ⟨h.inside, h'.extended.within h.extended.brackets, h'.closes⟩

end AtCloser

/-! ### Brackets that have been closed -/

section Closed

variable {x : Char} {close : String} {tail : List Char} {c d : Cursor} {α β : Type}

/-- Whatever of some kind the first reader yields, the second one yields in the text that goes on,
which goes on behind it as well. -/
def Continues (tail : List Char) (G : α → Cursor → Prop) (p q : Parse α) (c d : Cursor) : Prop :=
  Yields p c fun a c' => G a c' →
    Ends q d (fun b d' => b = a ∧ Extended tail c' d' ∧ d'.brackets = d.brackets) fun _ => False

namespace Continues

variable {G : β → Cursor → Prop} {p q : Parse β} {s t : Parse α} {f g : α → Parse β}

theorem pure (h : Extended tail c d) (b : β) :
    Continues tail G (Pure.pure b) (Pure.pure b) c d := by
  simpa [Continues] using fun _ => h

theorem of_excluded (h : Yields p c fun b c' => ¬G b c') : Continues tail G p q c d :=
  h.mono fun _ _ excluded ok => absurd ok excluded

theorem of_refused (h : Yields p c fun _ _ => False) : Continues tail G p q c d :=
  h.mono fun _ _ => False.elim

theorem weaken {G' : β → Cursor → Prop} (h : Continues tail G' p q c d)
    (imp : ∀ b c', G b c' → G' b c') : Continues tail G p q c d :=
  Yields.mono h fun b c' ends ok => ends (imp b c' ok)

theorem bind (h : Continues tail (fun _ _ => True) s t c d)
    (next : ∀ a c' d', Extended tail c' d' → Continues tail G (f a) (g a) c' d') :
    Continues tail G (s >>= f) (t >>= g) c d := by
  rw [Continues, Yields.bind_iff]
  refine Yields.mono h fun a c' ends b c'' ran ok => ?_
  rw [Ends.bind_iff]
  refine (ends trivial).imp ?_
  rintro _ d' ⟨rfl, extended, same⟩
  refine (next _ c' d' extended b c'' ran ok).imp ?_
  rintro _ d'' ⟨rfl, extended', same'⟩
  exact ⟨rfl, extended', same'.trans same⟩

/-- What is yielded is changed in the same way. -/
theorem map {change : α → β} (h : Continues tail (fun a => G (change a)) s t c d) :
    Continues tail G (do return change (← s)) (do return change (← t)) c d := by
  simp only [Continues, bind_pure_comp, Yields.map_iff, Ends.map_iff]
  refine Yields.mono h fun a c' ends ok => (ends ok).imp ?_
  rintro _ d' ⟨rfl, found⟩
  exact ⟨rfl, found⟩

theorem ite {b : Prop} [Decidable b] {p' q' : Parse β} (h : b → Continues tail G p q c d)
    (h' : ¬b → Continues tail G p' q' c d) :
    Continues tail G (if b then p else p') (if b then q else q') c d := by
  split
  · next holds => exact h holds
  · next fails => exact h' fails

theorem looking {f g : Cursor → Parse β} (next : Continues tail G (f c) (g d) c d) :
    Continues tail G (look >>= f) (look >>= g) c d := by
  simpa [Continues] using next

theorem passing {f g : Unit → Parse β} {x : Char}
    (next : Continues tail G (f ()) (g ()) (c.pass 1) (d.pass 1)) :
    Continues tail G (char x >>= f) (char x >>= g) c d := by
  simpa [Continues] using next

theorem passingUnseen {f g : Unit → Parse β} {piece : String}
    (next : Continues tail G (f ()) (g ()) (c.pass piece.length) (d.pass piece.length)) :
    Continues tail G (unseen piece >>= f) (unseen piece >>= g) c d := by
  simpa [Continues] using next

end Continues

/-- A reader that comes to a closing bracket has it in front of it from the beginning. -/
theorem AtCloser.of_ran {p : Parse α} {a : α} {c' : Cursor} {behind : List Char}
    (h : Extended tail c d) (keeps : KeepsTo (fun c' => c'.rest <:+ c.rest) p)
    (ran : p.run.run { c with brackets := c.brackets + 1 } = (.ok a, c'))
    (closes : x :: behind <:+ c'.rest) :
    AtCloser x behind tail { c with brackets := c.brackets + 1 }
      { d with brackets := d.brackets + 1 } := by
  have suffix := keeps.yields (c := { c with brackets := c.brackets + 1 }) List.suffix_rfl
  exact ⟨Nat.succ_pos _, h.within (congrArg (· + 1) h.brackets), closes.trans (suffix a c' ran)⟩

/-- Expressions at the seam. -/
theorem expressionWithin_atCloser (closer : x = ')' ∨ x = ']') (behind : List Char)
    (levels : Nat) :
    (Seam.atCloser x closer behind tail).Agree (expressionWithin levels)
      (expressionWithin levels) :=
  Seam.expressionWithin_agree (Seam.nests_atCloser closer behind tail) _ _ (.inr le_rfl)

variable (chars : close.toList = [x])

include chars

/-- A closing bracket behind blanks is behind the same blanks in the text that goes on. -/
theorem Extended.closing (h : Extended tail c d) (found : c.skipped.startsWith close) :
    Extended tail c.skipped d.skipped ∧ d.skipped.startsWith close := by
  obtain ⟨behind, start⟩ := Cursor.rest_of_startsWith_one chars found
  have extended := h.skipped (start ▸ List.cons_ne_nil _ _)
  exact ⟨extended, extended.startsWith found⟩

variable (closer : x = ')' ∨ x = ']')

include closer

/-- What is read inside brackets, up to the closing one, is read in the text that goes on as well.
The closing bracket is looked for behind the blanks at `look`, inside the brackets or outside. -/
theorem inside_continues {p q : Parse α} (h : Extended tail c d) (look : Cursor → Cursor)
    (same : ∀ c, (look c).rest = c.rest)
    (keeps : KeepsTo (fun c' => c'.rest <:+ c.rest) p)
    (tracks : ∀ behind,
      (∀ c', (look c').skipped.rest = x :: behind →
        (Seam.atCloser x closer behind tail).Clear c') →
      ∀ {c d}, AtCloser x behind tail c d →
        (Seam.atCloser x closer behind tail).Tracks (fun c' => (look c').skipped.rest = x :: behind)
          p q c d) :
    Yields p { c with brackets := c.brackets + 1 } fun a c' => (look c').skipped.startsWith close →
      Ends q { d with brackets := d.brackets + 1 } (fun b d' => b = a ∧ Extended tail c' d')
        fun _ => False := by
  intro a c' ran found
  obtain ⟨behind, start⟩ := Cursor.rest_of_startsWith_one chars found
  have closes (c' : Cursor) (start : (look c').skipped.rest = x :: behind) :
      x :: behind <:+ c'.rest := by
    rw [← start, ← same c']
    exact List.drop_suffix _ _
  have clear (c' : Cursor) (start : (look c').skipped.rest = x :: behind) :
      (Seam.atCloser x closer behind tail).Clear c' := by
    refine Seam.clear_of_closer chars closer (closes c' start).length_le (same c').symm ?_
    rw [Cursor.startsWith_one chars, start]
    exact beq_self_eq_true _
  have meets := AtCloser.of_ran h keeps ran (closes c' start)
  refine (tracks behind clear meets a c' ran start).mono ?_ fun _ excused => excused.1
  rintro _ d' ⟨rfl, meets⟩
  exact ⟨rfl, meets.extended⟩

variable (levels : Nat)

/-- An expression in brackets. -/
theorem enclosed_continues {G : Expr → Cursor → Prop} (h : Extended tail c d) :
    Continues tail G (enclosed (expressionWithin levels) close)
      (enclosed (expressionWithin levels) close) c d := by
  have read := inside_continues chars closer h (fun c' => { c' with brackets := c.brackets })
    (fun _ => rfl) (expressionWithin_keeps (lasting_suffix _) levels) fun behind clear _ _ meets =>
      Yields.mono ((expressionWithin_atCloser closer behind levels).tracks meets)
        fun _ c' ends start => ends (clear c' start)
  simp only [Continues, enclosed, Yields.bind_iff, Yields.bracketed_iff, Yields.skipSpace_iff,
    Yields.pure_iff, Yields.expect_iff, Ends.bind_iff, Ends.bracketed_iff, Ends.skipSpace_iff,
    Ends.pure_iff, Ends.expect_iff]
  refine Yields.mono read fun e c' ends found _ => (ends found).imp ?_
  rintro _ d' ⟨rfl, extended⟩
  obtain ⟨behind, found'⟩ := (extended.within h.brackets).closing chars found
  exact ⟨fun _ => ⟨rfl, behind.pass_sign found, rfl⟩, fun missing =>
    absurd found' (Bool.eq_false_iff.1 missing)⟩

/-- Items in brackets. -/
theorem sequence_continues {G : List Expr → Cursor → Prop} (h : Extended tail c d) :
    Continues tail G (sequence (expressionWithin levels) close)
      (sequence (expressionWithin levels) close) c d := by
  have lasting := lasting_suffix c.rest
  have enough : c.rest.length + 1 ≤ d.rest.length + 1 := by
    rw [h.rest, List.length_append]
    omega
  have read := inside_continues chars closer h id (fun _ => rfl)
    (items_keeps lasting (expressionWithin_keeps lasting levels) close (c.rest.length + 1))
    fun behind clear _ _ meets =>
      Seam.items_tracks (expressionWithin_atCloser closer behind levels) (.expressionWithin levels)
        (G := fun c => c.rest = x :: behind) clear
        (fun meets _ found => meets.extended.startsWith found)
        (blocked_one chars (isInner_closer closer)) _ (d.rest.length + 1) (.inr enough) meets
  simp only [Continues, sequence, Yields.bind_iff, Yields.bracketed_iff, Yields.look_iff,
    Yields.skipSpace_iff, Yields.pure_iff, Yields.expect_iff, Ends.bind_iff, Ends.bracketed_iff,
    Ends.look_iff, Ends.skipSpace_iff, Ends.pure_iff, Ends.expect_iff]
  refine Yields.mono read fun es c' ends found _ => (ends found).imp ?_
  rintro _ d' ⟨rfl, extended⟩
  obtain ⟨behind, found'⟩ := extended.closing chars found
  exact ⟨fun _ => ⟨rfl, (behind.within h.brackets).pass_sign found, rfl⟩, fun missing =>
    absurd found' (Bool.eq_false_iff.1 missing)⟩

end Closed

end Stencil.Script
