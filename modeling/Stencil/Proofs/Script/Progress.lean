import Stencil.Proofs.Script.Strings
import Stencil.Proofs.Script.Yields

/-!
# How readers get on

Where a reader has passed a character it never comes back to, everything it does from there on is
behind that character (`lasting_ahead`). A statement or an expression that is read begins with such
a character, so each of them moves the cursor on (`Advances`).

Hence the loops of the readers end. A round of a loop is written over the rounds that come after
it, and it goes on only from a cursor that has moved on (`Forward`); so after as many rounds as there
are characters nothing is left to be done (`Ending`). The loops that put operators on an expression
go one level deeper in every round, of which there are few (`Deepens`).
-/

namespace Stencil.Script

variable {α β : Type} {c c' c'' : Cursor}

/-! ### Behind another cursor -/

theorem Moved.refl (c : Cursor) : Moved c c := ⟨0, rfl, rfl⟩

theorem Moved.pass (h : Moved c c') (n : Nat) : Moved c (c'.pass n) := (lasting_moved c).pass h n

theorem Moved.skipped (h : Moved c c') : Moved c c'.skipped := h.pass _

theorem Moved.trans (h : Moved c c') (h' : Moved c' c'') : Moved c c'' := by
  obtain ⟨n, rest, place⟩ := h'
  obtain ⟨m, rest', place'⟩ := h.pass n
  exact ⟨m, rest.trans rest', place.trans place'⟩

theorem Moved.length_le (h : Moved c c') : c'.rest.length ≤ c.rest.length := by
  obtain ⟨n, rest, -⟩ := h
  rw [rest, Cursor.rest_pass, List.length_drop]
  exact Nat.sub_le _ _

/-- The cursor is behind some more characters than another one. -/
structure Ahead (c c' : Cursor) : Prop where
  moved : Moved c c'
  shorter : c'.rest.length < c.rest.length

theorem Moved.ahead (h : Moved c c') (h' : Ahead c' c'') : Ahead c c'' :=
  ⟨h.trans h'.moved, h'.shorter.trans_le h.length_le⟩

theorem Ahead.then (h : Ahead c c') (h' : Moved c' c'') : Ahead c c'' :=
  ⟨h.moved.trans h', h'.length_le.trans_lt h.shorter⟩

theorem ahead_pass {n : Nat} (some : n ≠ 0) (more : c.rest ≠ []) : Ahead c (c.pass n) := by
  refine ⟨(Moved.refl c).pass n, ?_⟩
  have longer := List.length_pos_iff.2 more
  rw [Cursor.rest_pass, List.length_drop]
  omega

/-- What is behind some more characters is behind some more bytes. -/
theorem Ahead.offset (h : Ahead c c') : c.place.offset < c'.place.offset := by
  obtain ⟨⟨n, rest, place⟩, shorter⟩ := h
  have some : c.rest.take n ≠ [] := by
    intro none
    have all : c.rest.drop n = c.rest := by
      conv_rhs => rw [← List.take_append_drop n c.rest, none, List.nil_append]
    rw [rest, Cursor.rest_pass, all] at shorter
    exact Nat.lt_irrefl _ shorter
  have bytes : String.utf8Len (c.rest.take n) ≠ 0 := fun none =>
    some (String.utf8Len_eq_zero.1 none)
  rw [place, Cursor.pass, Location.offset_after]
  omega

/-- A cursor that has moved on stays behind what it has passed. -/
theorem lasting_ahead (c : Cursor) : Lasts (Ahead c) := by
  refine .of_place ?_ (fun ahead n => ahead.then ((Moved.refl _).pass n)) fun _ _ => trivial
  rintro c' c'' ahead rest place
  exact ahead.then ⟨0, rest, place⟩

/-! ### Readers that move on -/

/-- Whatever a reader yields, it has moved on. -/
def Advances (p : Parse α) : Prop := ∀ c, Yields p c fun _ c' => Ahead c c'

/-- From behind a character, a reader does not come back to it. -/
abbrev KeepsOn (p : Parse α) : Prop := ∀ c, KeepsTo (Ahead c) p

theorem KeepsOn.yields {p : Parse α} (h : KeepsOn p) (ahead : Ahead c c') :
    Yields p c' fun _ c'' => Ahead c c'' :=
  (h c).yields ahead

/-- A test that moves on where it succeeds, and does nothing where it does not. -/
def Takes (x : Parse Bool) : Prop :=
  ∀ c, Yields x c fun found c' => (found → Ahead c c') ∧ (found = false → c' = c)

namespace Advances

variable {p q : Parse α} {f : α → Parse β}

theorem of_first (h : Advances p) (next : ∀ a, KeepsOn (f a)) : Advances (p >>= f) := by
  intro c
  rw [Yields.bind_iff]
  exact (h c).mono fun a c' ahead => (next a).yields ahead

theorem of_next (h : ∀ c, Yields p c fun _ c' => Moved c c') (next : ∀ a, Advances (f a)) :
    Advances (p >>= f) := by
  intro c
  rw [Yields.bind_iff]
  exact (h c).mono fun a c' moved => (next a c').mono fun _ _ ahead => moved.ahead ahead

theorem map (h : Advances p) (change : α → β) : Advances (do return change (← p)) :=
  h.of_first fun _ _ => .pure _

theorem refused (h : ∀ c, Yields p c fun _ _ => False) : Advances p :=
  fun c => (h c).mono fun _ _ => False.elim

theorem whether {x : Parse Bool} (test : Takes x) (h : KeepsOn p) (h' : Advances q) :
    Advances (do if ← x then p else q) := by
  intro c
  rw [Yields.bind_iff]
  refine (test c).mono ?_
  rintro found c' ⟨taken, left⟩
  cases found with
  | true => exact h.yields (taken rfl)
  | false =>
      obtain rfl := left rfl
      exact h' c'

theorem unlessStopped {b : Prop} [Decidable b] {stop : Parse Unit} {f : Unit → Parse β}
    (h : ∀ c, Yields stop c fun _ _ => False) (next : Advances (f ())) :
    Advances (if b then (stop >>= f) else f ()) := by
  split
  · exact .refused fun c => Yields.bind_iff.2 ((h c).mono fun _ _ => False.elim)
  · exact next

theorem skipping {f : Unit → Parse β} (next : Advances (f ())) : Advances (skipSpace >>= f) :=
  .of_next (fun c => Yields.skipSpace_iff.2 (Moved.refl c).skipped) fun _ => next

end Advances

theorem rest_ne_nil_of_startsWith {s : String} (some : s ≠ "") (found : c.startsWith s) :
    c.rest ≠ [] := by
  intro ended
  rw [Cursor.startsWith, ended, List.isPrefixOf_iff_prefix, List.prefix_nil] at found
  exact some (String.toList_eq_nil_iff.1 found)

theorem rest_ne_nil_of_word (some : c.word ≠ []) : c.rest ≠ [] := by
  intro ended
  exact some (by simp [Cursor.word, ended])

theorem accept_takes {s : String} (some : s ≠ "") : Takes (accept s) := by
  intro c
  rw [Yields.accept_iff]
  refine ⟨fun found => ⟨fun _ => ?_, by simp⟩, by simp⟩
  exact ahead_pass (mt String.length_eq_zero_iff.1 some) (rest_ne_nil_of_startsWith some found)

theorem acceptKeyword_takes {keyword : String} (some : keyword ≠ "") :
    Takes (acceptKeyword keyword) := by
  intro c
  rw [Yields.acceptKeyword_iff]
  refine ⟨fun found => ⟨fun _ => ?_, by simp⟩, by simp⟩
  refine ahead_pass (mt String.length_eq_zero_iff.1 some) (rest_ne_nil_of_word ?_)
  rw [found]
  exact mt String.toList_eq_nil_iff.1 some

theorem acceptNot_takes : Takes acceptNot := by
  intro c
  have keyword : Takes (acceptKeyword "not") := acceptKeyword_takes (by decide)
  simp only [acceptNot, Yields.bind_iff, Yields.peek_iff, Yields.ite_iff, Yields.unseen_iff,
    Yields.pure_iff]
  refine ⟨fun found => ⟨fun _ => ahead_pass one_ne_zero ?_, by simp⟩, fun _ => keyword c⟩
  rw [Bool.and_eq_true] at found
  exact rest_ne_nil_of_startsWith (by decide) found.1

theorem identifier_advances : Advances identifier := by
  intro c
  rw [Yields.identifier_iff]
  intro some _
  exact (Moved.refl c).skipped.ahead
    (ahead_pass (mt List.length_eq_zero_iff.1 some) (rest_ne_nil_of_word some))

/-- A number moves on, as it begins with a digit. -/
theorem number_ahead {x : Char} (here : c.rest.head? = some x) (digit : x.isDigit) :
    Yields number c fun _ c' => Ahead c c' := by
  have row : Yields digitRow c fun _ c' => Ahead c c' := by
    obtain ⟨cs, rest⟩ := List.head?_eq_some_iff.1 here
    have some : (c.rest.takeWhile isDigitOrUnderscore).length ≠ 0 := by
      simp [rest, isDigitOrUnderscore, digit]
    simpa [digitRow] using ahead_pass some (by simp [rest])
  have more (start : Cursor) (digits : List Char) : KeepsOn (do
      if startsFraction (← look).rest then
        unseen "."
        let fraction ← digitRow
        return Literal.float (Decimal.ofDecimal false (digits ++ fraction) (-fraction.length))
      else
        let n := Decimal.digitsValue digits
        if Int64.maxValue.toInt < n then throw (start.error (.intOutOfRange (String.ofList digits)))
        return .int (Int64.ofNat n)) := by
    refine fun c => (lasting_ahead c).seeing fun _ _ =>
      .ite ?_ (.unlessStopped (.throw trivial) fun _ => .pure _)
    exact (unseen_keeps (lasting_ahead c) ".").bind fun _ =>
      (digitRow_keeps (lasting_ahead c)).bind fun _ => .pure _
  rw [number, Yields.bind_iff, Yields.look_iff, Yields.bind_iff]
  exact row.mono fun digits c' ahead => (more c digits).yields ahead

/-- A string moves on, over its first quote. -/
theorem quoted_ahead (quote : Char) (more : c.rest ≠ []) :
    Yields (quoted quote) c fun _ c' => Ahead c c' := by
  rw [quoted, Yields.bind_iff, Yields.look_iff, Yields.bind_iff, Yields.char_iff]
  exact ((stringBody_keeps (lasting_ahead c) trivial quote _).bind fun _ => .pure _).yields
    (ahead_pass one_ne_zero more)

section Expressions

variable {whole : Parse Expr} (h : KeepsOn whole)

include h

theorem primary_advances : Advances (primary whole) := by
  unfold primary
  refine .skipping fun c => ?_
  rw [Yields.bind_iff, Yields.look_iff]
  split
  · simp
  · next x here =>
    have more : c.rest ≠ [] := by
      rintro ended
      rw [ended] at here
      cases here
    have ahead := ahead_pass one_ne_zero more
    have lasting := lasting_ahead c
    have word : Advances (do
        if ← acceptKeyword "true" then return Expr.literal (.bool true)
        if ← acceptKeyword "false" then return .literal (.bool false)
        if ← acceptKeyword "none" then return .literal .none
        if (← peekWord).isEmpty then failFound .expectedExpression
        return .var (← identifier)) := by
      refine .whether (acceptKeyword_takes (by decide)) (fun _ => .pure _) ?_
      refine .whether (acceptKeyword_takes (by decide)) (fun _ => .pure _) ?_
      refine .whether (acceptKeyword_takes (by decide)) (fun _ => .pure _) ?_
      refine .of_next (fun c => Yields.peekWord_iff.2 (Moved.refl c)) fun word => ?_
      exact .unlessStopped (fun c => by simp) (identifier_advances.map _)
    simp only [Yields.ite_iff]
    refine ⟨fun digit => ?_, fun _ => ⟨fun _ => ?_, fun _ => ⟨fun _ => ?_, fun _ =>
      ⟨fun _ => ?_, fun _ => word c⟩⟩⟩⟩
    · simpa using number_ahead here digit
    · simpa using quoted_ahead x more
    · rw [Yields.bind_iff, Yields.char_iff]
      exact ((sequence_keeps lasting (h c) (by decide)).bind fun _ => .pure _).yields ahead
    · rw [Yields.bind_iff, Yields.char_iff]
      exact (enclosed_keeps lasting (h c) (by decide)).yields ahead

theorem trailed_advances : Advances (trailed whole) :=
  (primary_advances h).of_first fun e c =>
    extend_keeps (lasting_ahead c) (trailer_keeps (lasting_ahead c) (h c)) _ e

theorem negated_advances : ∀ fuel : Nat, Advances (negated whole fuel)
  | 0 => .refused fun c => by simp [negated]
  | fuel + 1 => by
    rw [negated]
    refine .skipping (.whether (accept_takes (by decide)) (fun c => ?_) (trailed_advances h))
    exact (descend_keeps (lasting_ahead c)).bind fun _ =>
      (negated_keeps (lasting_ahead c) (h c) fuel).bind fun _ => .pure _

theorem product_advances : Advances (product whole) :=
  (negated_advances h _).of_first fun e c =>
    extend_keeps (lasting_ahead c) (moreFactors_keeps (lasting_ahead c) (h c)) _ e

theorem sum_advances : Advances (sum whole) :=
  (product_advances h).of_first fun e c =>
    extend_keeps (lasting_ahead c) (moreTerms_keeps (lasting_ahead c) (h c)) _ e

theorem comparison_advances : Advances (comparison whole) :=
  (sum_advances h).of_first fun e c => compared_keeps (lasting_ahead c) (h c) e

theorem denied_advances : ∀ fuel : Nat, Advances (denied whole fuel)
  | 0 => .refused fun c => by simp [denied]
  | fuel + 1 => by
    rw [denied]
    refine .skipping (.whether acceptNot_takes (fun c => ?_) (comparison_advances h))
    exact (descend_keeps (lasting_ahead c)).bind fun _ =>
      (denied_keeps (lasting_ahead c) (h c) fuel).bind fun _ => .pure _

theorem conjunction_advances : Advances (conjunction whole) :=
  (denied_advances h _).of_first fun e c =>
    extend_keeps (lasting_ahead c) (moreConjuncts_keeps (lasting_ahead c) (h c)) _ e

theorem disjunction_advances : Advances (disjunction whole) :=
  (conjunction_advances h).of_first fun e c =>
    extend_keeps (lasting_ahead c) (moreDisjuncts_keeps (lasting_ahead c) (h c)) _ e

theorem filtered_advances : Advances (filtered whole) :=
  (disjunction_advances h).of_first fun e c =>
    extend_keeps (lasting_ahead c) (moreFilters_keeps (lasting_ahead c) (h c)) _ e

end Expressions

/-- A complete expression moves the cursor on. -/
theorem expressionWithin_advances : ∀ levels : Nat, Advances (expressionWithin levels)
  | 0 => .refused fun c => by simp [expressionWithin]
  | levels + 1 => by
    intro c
    simp only [expressionWithin, Yields.keepingDepth_iff, Yields.bind_iff, Yields.descend_iff]
    intro _
    have keeps (c : Cursor) := expressionWithin_keeps (lasting_ahead c) levels
    refine (filtered_advances keeps _).mono fun _ c' ahead => ?_
    exact ⟨ahead.moved, ahead.shorter⟩

theorem assignOp?_moves (c : Cursor) : Yields assignOp? c fun op c' =>
    Moved c c' ∧ (op = none → c' = c) := by
  have moved (n : Nat) : Moved c (c.pass n) := (Moved.refl c).pass n
  simp [assignOp?, moved, Moved.refl]

theorem assignment?_moves (c : Cursor) : Yields assignment? c fun target c' =>
    (target.isSome → Ahead c c') ∧ (target = none → c' = c) := by
  simp only [assignment?, Yields.bind_iff, Yields.get_iff, Yields.peekWord_iff, Yields.ite_iff,
    Yields.pure_iff, Yields.unseen_iff, Yields.skipSpace_iff]
  refine ⟨by simp, fun named => ?_⟩
  have some : c.word ≠ [] := by
    intro none
    exact named (by simp [none])
  have ahead : Ahead c (c.pass (String.ofList c.word).length).skipped := by
    rw [String.length_ofList]
    exact (ahead_pass (mt List.length_eq_zero_iff.1 some) (rest_ne_nil_of_word some)).then
      (Moved.refl _).skipped
  refine (assignOp?_moves _).mono ?_
  rintro op c' ⟨moved, left⟩
  cases op with
  | some op => simpa using ahead.then moved
  | none =>
      obtain rfl := left rfl
      simp

/-- A statement moves the cursor on. -/
theorem statement_advances {body : Parse (List Stmt)} (h : KeepsOn body) :
    Advances (statement body) := by
  have expression (c : Cursor) := expression_keeps (lasting_ahead c)
  unfold statement
  refine .skipping (.whether (acceptKeyword_takes (by decide)) (fun c => ?_) ?_)
  · exact (identifier_keeps (lasting_ahead c)).bind fun _ =>
      (skipSpace_keeps (lasting_ahead c)).bind fun _ =>
        (expect_keeps (lasting_ahead c) (by decide)).bind fun _ =>
          (expression c).bind fun _ => .pure _
  refine .whether (acceptKeyword_takes (by decide)) (fun c => ?_) ?_
  · exact (expression c).bind fun _ => (h c).bind fun _ => (lasting_ahead c).seeing fun _ _ =>
      (elseTail_keeps (lasting_ahead c) (h c) _).bind fun _ => .pure _
  refine .whether (acceptKeyword_takes (by decide)) (fun c => ?_) ?_
  · exact (forHead_keeps (lasting_ahead c)).bind fun _ => (h c).bind fun _ => .pure _
  refine .whether (acceptKeyword_takes (by decide)) (fun c => ?_) ?_
  · exact (expression c).bind fun _ => (h c).bind fun _ => .pure _
  refine .whether (acceptKeyword_takes (by decide)) (fun _ => .pure _) ?_
  refine .whether (acceptKeyword_takes (by decide)) (fun _ => .pure _) fun c => ?_
  rw [Yields.bind_iff]
  refine (assignment?_moves c).mono ?_
  rintro target c' ⟨taken, left⟩
  cases target with
  | some target => exact ((expression c).bind fun _ => .pure _).yields (taken rfl)
  | none =>
      obtain rfl := left rfl
      exact (expressionWithin_advances _).map _ c'

end Stencil.Script
