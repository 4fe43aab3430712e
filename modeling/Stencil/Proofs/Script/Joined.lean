import Stencil.Proofs.Script.Continued

/-!
# Statements in front of another line

The statements of a text are the same if another line follows them. Outside brackets nothing goes
on from one line to the next but a conditional, so the line that follows must not start with the
rest of one; and a line that is read as statements itself does not.
-/

namespace Stencil.Script

/-- What stands behind a text: nothing, or another line. -/
inductive Behind : List Char → Prop
  | nothing : Behind []
  | line (text : List Char) : Behind ('\n' :: text)

/-- No conditional goes on in the text. -/
def NoElse (text : List Char) : Prop :=
  ∀ c : Cursor, c.rest = text.drop (gapLength isSpaceOrBreak false text) →
    c.word ≠ "elif".toList ∧ c.word ≠ "else".toList

section Blanks

variable {tail : List Char}

/-- Blanks within a line end where the line does. -/
theorem gapLength_line {blank : Char → Bool} (inLine : blank '\n' = false) (behind : Behind tail) :
    ∀ (comment : Bool) (text : List Char),
      gapLength blank comment (text ++ tail) = gapLength blank comment text
  | comment, [] => by
    cases behind with
    | nothing => rfl
    | line text => simp [gapLength, inLine]
  | comment, x :: text => by
    simp only [List.cons_append, gapLength, gapLength_line inLine behind]

/-- Blanks that go over lines either end in a text, or go on in what stands behind it. -/
theorem gapLength_all {blank : Char → Bool} (breaks : blank '\n') (behind : Behind tail)
    {text : List Char} (all : text.drop (gapLength blank false text) = []) :
    gapLength blank false (text ++ tail) = text.length + gapLength blank false tail := by
  rw [List.drop_eq_nil_iff] at all
  cases behind with
  | nothing =>
      rw [List.append_nil]
      exact Nat.le_antisymm (gapLength_le _ _ _) all
  | line line =>
      have start : gapLength blank false ('\n' :: line) = gapLength blank false line + 1 := by
        simp [gapLength, breaks]
      rw [gapLength_break blank breaks, if_neg (Nat.not_lt.2 all), start]
      omega

end Blanks

/-! ### The seam at the end of a line -/

/-- Two cursors outside brackets, in texts of which one goes on behind the other. -/
structure AtLineEnd (tail : List Char) (c d : Cursor) : Prop where
  outside : c.brackets = 0
  extended : Extended tail c d

def Seam.atLine {tail : List Char} (behind : Behind tail) : Seam where
  Meets := AtLineEnd tail
  floor := 0
  loose := False
  level h := .inr h.extended.depth
  depth h _ _ level :=
    ⟨h.outside, h.extended.rest, h.extended.brackets, level.resolve_left id⟩
  pass h _ fits := ⟨h.outside, h.extended.pass fits⟩
  skipped {c d} h _ := by
    have outside : ¬0 < c.brackets := Nat.not_lt.2 h.outside.le
    refine ⟨h.outside, ?_⟩
    rw [Cursor.skipped, Cursor.skipped, ← h.extended.brackets, if_neg outside, h.extended.rest,
      gapLength_line rfl behind]
    exact h.extended.pass (gapLength_le _ _ _)
  length h := by
    refine ⟨Nat.zero_le _, ?_⟩
    rw [h.extended.rest, List.length_append]
    exact Nat.le_add_right _ _
  head {c d} h more := by
    rw [h.extended.rest, List.head?_append_of_ne_nil]
    exact List.ne_nil_of_length_pos more
  line {c d} h := by
    have stops : tail.takeWhile isInner = [] := by
      cases behind <;> rfl
    rw [h.extended.rest, takeWhile_cut stops]
    exact ⟨rfl, (List.takeWhile_prefix isInner).length_le⟩

/-- Blanks that do not reach the end of the first text. -/
theorem AtLineEnd.passBlanks {blank : Char → Bool} {tail : List Char} {c d : Cursor}
    (h : AtLineEnd tail c d) (more : c.rest.drop (gapLength blank false c.rest) ≠ []) :
    AtLineEnd tail (c.pass (gapLength blank false c.rest))
      (d.pass (gapLength blank false d.rest)) := by
  rw [ne_eq, List.drop_eq_nil_iff, Nat.not_le] at more
  rw [h.extended.rest, gapLength_append more]
  exact ⟨h.outside, h.extended.pass more.le⟩

section Line

variable {α : Type} {tail : List Char} {behind : Behind tail} {c d : Cursor}

theorem Seam.Agree.alike {S : Seam} {p q : Parse α} (h : S.Agree p q) (none : S.floor = 0) :
    S.Alike p q where
  keeps := h.keeps
  tracks meets := (h.tracks meets).mono fun _ _ ends _ => ends (S.clear_of_floor none _)

theorem meets_back {c' d' : Cursor} (h : (Seam.atLine behind).Meets c d)
    (h' : (Seam.atLine behind).Meets c' d') :
    (Seam.atLine behind).Meets (c'.back c) (d'.back d) :=
  ⟨h'.outside, h.extended.rest, h'.extended.brackets, h'.extended.depth⟩

theorem keeps_lost (p : Parse α) : KeepsTo (Seam.atLine behind).Lost p :=
  fun _ _ here => absurd here.2 (Nat.not_lt_zero _)

theorem alike_of_continues {p : Parse α}
    (h : ∀ {c d : Cursor}, Extended tail c d → Continues tail (fun _ _ => True) p p c d) :
    (Seam.atLine behind).Alike p p where
  keeps := keeps_lost p
  tracks {c d} meets := by
    refine Yields.mono (h meets.extended) fun a c' ends _ => ?_
    refine (ends trivial).mono ?_ fun _ => False.elim
    rintro _ d' ⟨rfl, extended, same⟩
    have outside : d.brackets = 0 := meets.extended.brackets.symm.trans meets.outside
    exact ⟨rfl, extended.brackets.trans (same.trans outside), extended⟩

theorem expression_alike : (Seam.atLine behind).Alike expression expression := by
  have brackets : (Seam.atLine behind).Brackets (expressionWithin maxDepth)
      (expressionWithin maxDepth) := {
    keeps := keeps_lost _
    sequence := fun chars closer => alike_of_continues (sequence_continues chars closer _)
    enclosed := fun chars closer => alike_of_continues (enclosed_continues chars closer _) }
  exact (Seam.expressionWithin_succ_agree brackets).alike rfl

/-! ### Statements -/

theorem unbracketed_alike {p q : Parse α} (h : (Seam.atLine behind).Alike p q) :
    (Seam.atLine behind).Alike (unbracketed p) (unbracketed q) where
  keeps := keeps_lost _
  tracks {c d} meets := by
    simp only [Seam.Tracks, Yields.unbracketed_iff, Ends.unbracketed_iff]
    have start : AtLineEnd tail { c with brackets := 0 } { d with brackets := 0 } :=
      ⟨rfl, meets.extended.within rfl⟩
    refine (h.tracks start).mono fun a c' ends inFront => (ends inFront).imp ?_
    rintro _ d' ⟨rfl, meets'⟩
    exact ⟨rfl, meets.outside, meets'.extended.within meets.extended.brackets⟩

theorem expectKeyword_alike (keyword : String) :
    (Seam.atLine behind).Alike (expectKeyword keyword) (expectKeyword keyword) :=
  Seam.skipSpace_alike.bind fun _ =>
    (Seam.acceptKeyword_alike keyword).whether (.pure ()) .failFound

theorem forHead_alike : (Seam.atLine behind).Alike forHead forHead :=
  Seam.identifier_alike.bind fun _ => (expectKeyword_alike "in").bind fun _ =>
    expression_alike.bind fun _ => .pure _

theorem assignOp?_alike : (Seam.atLine behind).Alike assignOp? assignOp? := by
  unfold assignOp?
  refine (Seam.accept_alike (by decide)).whether (.pure _) ?_
  refine (Seam.accept_alike (by decide)).whether (.pure _) ⟨keeps_lost _, fun {c d} meets => ?_⟩
  refine .peeking (.peeking ?_)
  rw [← meets.startsWith (by decide), ← meets.startsWith (by decide)]
  refine .ite (fun found => .passingUnseen (.pure ?_ _)) fun _ => .pure meets none
  have sign : c.startsWith "=" := by simp_all
  exact (Seam.atLine behind).pass meets (meets.fits (by decide) sign)

theorem assignment?_alike : (Seam.atLine behind).Alike assignment? assignment? := by
  unfold assignment?
  refine .looking (fun _ => keeps_lost _) fun {c d} meets => .peekingWord ?_
  obtain ⟨same, fits⟩ := meets.word
  rw [← same]
  refine .ite (fun _ => .pure meets none) fun _ => .passingUnseen ?_
  have passed : (Seam.atLine behind).Meets (c.pass (String.ofList c.word).length)
      (d.pass (String.ofList c.word).length) := by
    refine (Seam.atLine behind).pass meets ?_
    rw [← String.length_toList, String.toList_ofList]
    exact fits
  refine .skipping passed (fun _ => id) (keeps_lost _) fun meets' => ?_
  refine .bind (fun _ => id) (assignOp?_alike.tracks meets') (fun _ => keeps_lost _) ?_
  rintro (_ | op) c' d' meets'
  · simpa [Seam.Tracks] using fun _ => meets_back meets meets'
  · exact .pure meets' _

section Bodies

variable {body : Parse (List Stmt)} (h : (Seam.atLine behind).Alike body body)

include h

theorem braced_alike : (Seam.atLine behind).Alike (braced body) (braced body) := by
  unfold braced
  refine Seam.skipSpace_alike.bind fun _ => (Seam.expect_alike (by decide)).bind fun _ => ?_
  refine (Seam.keepingDepth_alike (unbracketed_alike ?_)).bind fun _ => ?_
  · exact Seam.descend_alike.bind fun _ => h
  · exact (Seam.expect_alike (by decide)).bind fun _ => .pure _

variable (noElse : NoElse tail)

include noElse

theorem elseTail_alike : ∀ {fuel fuel' : Nat}, fuel ≤ fuel' →
    (Seam.atLine behind).Alike (elseTail body fuel) (elseTail body fuel')
  | 0, _, _ => .fail
  | fuel + 1, fuel' + 1, enough => by
    have branch : (Seam.atLine behind).Alike
        (do return Else.elif (← expression) (← body) (← elseTail body fuel))
        (do return Else.elif (← expression) (← body) (← elseTail body fuel')) :=
      expression_alike.bind fun _ => h.bind fun _ =>
        (elseTail_alike (Nat.le_of_succ_le_succ enough)).bind fun _ => .pure _
    have otherwise : (Seam.atLine behind).Alike (do
        skipSpace
        if ← acceptKeyword "if" then
          return Else.elif (← expression) (← body) (← elseTail body fuel)
        return .block (← body)) (do
        skipSpace
        if ← acceptKeyword "if" then
          return Else.elif (← expression) (← body) (← elseTail body fuel')
        return .block (← body)) :=
      Seam.skipSpace_alike.bind fun _ => (Seam.acceptKeyword_alike _).whether branch
        (h.bind fun _ => .pure _)
    rw [elseTail, elseTail]
    refine .looking (fun _ => keeps_lost _) fun {c d} meets => .passingBlanks ?_
    by_cases all : c.rest.drop (gapLength isSpaceOrBreak false c.rest) = []
    · have none : (c.pass (gapLength isSpaceOrBreak false c.rest)).word = [] := by
        simp [Cursor.word, all]
      obtain ⟨noElif, noElse⟩ := noElse (d.pass (gapLength isSpaceOrBreak false d.rest)) (by
        rw [Cursor.rest_pass, meets.extended.rest, gapLength_all rfl behind all,
          List.drop_length_add_append])
      have noElif : (d.pass (gapLength isSpaceOrBreak false d.rest)).word ≠
          ['e', 'l', 'i', 'f'] := noElif
      have noElse : (d.pass (gapLength isSpaceOrBreak false d.rest)).word ≠
          ['e', 'l', 's', 'e'] := noElse
      simpa [Seam.Tracks, none, noElif, noElse] using fun _ => meets
    · have meets' := meets.passBlanks all
      refine .bind (fun _ => id) ((Seam.acceptKeyword_alike "elif").tracks meets')
        (fun _ => keeps_lost _) ?_
      rintro (_ | _) c' d' meets'
      · refine .bind (fun _ => id) ((Seam.acceptKeyword_alike "else").tracks meets')
          (fun _ => keeps_lost _) ?_
        rintro (_ | _) c' d' meets'
        · simpa [Seam.Tracks] using fun _ => meets_back meets meets'
        · exact otherwise.tracks meets'
      · exact branch.tracks meets'

theorem statement_alike : (Seam.atLine behind).Alike (statement body) (statement body) := by
  have declared : (Seam.atLine behind).Alike (do
      let name ← identifier
      skipSpace
      expect "="
      return Stmt.declare name (← expression)) (do
      let name ← identifier
      skipSpace
      expect "="
      return Stmt.declare name (← expression)) :=
    Seam.identifier_alike.bind fun _ => Seam.skipSpace_alike.bind fun _ =>
      (Seam.expect_alike (by decide)).bind fun _ => expression_alike.bind fun _ => .pure _
  have branch : (Seam.atLine behind).Alike (do
      return Stmt.branch (← expression) (← body) (← elseTail body ((← look).rest.length + 1))) (do
      return Stmt.branch (← expression) (← body) (← elseTail body ((← look).rest.length + 1))) := by
    refine expression_alike.bind fun _ => h.bind fun _ => .looking (fun _ => keeps_lost _) ?_
    intro c d meets
    have enough : c.rest.length + 1 ≤ d.rest.length + 1 :=
      Nat.succ_le_succ ((Seam.atLine behind).length meets).2
    exact ((elseTail_alike h noElse enough).bind fun _ => .pure _).tracks meets
  unfold statement
  refine Seam.skipSpace_alike.bind fun _ => (Seam.acceptKeyword_alike _).whether declared ?_
  refine (Seam.acceptKeyword_alike _).whether branch ?_
  refine (Seam.acceptKeyword_alike _).whether ?_ ?_
  · exact forHead_alike.bind fun _ => h.bind fun _ => .pure _
  refine (Seam.acceptKeyword_alike _).whether ?_ ?_
  · exact expression_alike.bind fun _ => h.bind fun _ => .pure _
  refine (Seam.acceptKeyword_alike _).whether (.pure _) ?_
  refine (Seam.acceptKeyword_alike _).whether (.pure _) ?_
  refine assignment?_alike.bind ?_
  rintro (_ | ⟨name, op⟩)
  · exact expression_alike.bind fun _ => .pure _
  · exact expression_alike.bind fun _ => .pure _

omit h noElse in
theorem statementEnds_alike (inBody : Bool) :
    (Seam.atLine behind).Alike (statementEnds inBody) (statementEnds inBody) := by
  unfold statementEnds
  refine .looking (fun _ => keeps_lost _) fun {c d} meets => ?_
  rcases Nat.eq_zero_or_pos c.rest.length with none | more
  · have rest : c.rest = [] := List.eq_nil_of_length_eq_zero none
    have ends : d.rest.isEmpty || d.startsWith "\n" := by
      rw [Cursor.startsWith, meets.extended.rest, rest]
      cases behind <;> rfl
    have same : (d.rest.isEmpty || d.startsWith "\n" || d.startsWith ";" ||
        (inBody && d.startsWith "\x7d")) = true := by
      rw [ends]
      simp
    rw [rest, same]
    exact .pure meets true
  · have one (sign : String) {x : Char} (chars : sign.toList = [x]) :
        c.startsWith sign = d.startsWith sign :=
      Seam.startsWith_one (S := Seam.atLine behind) chars meets more
    have empty : c.rest.isEmpty = d.rest.isEmpty := by
      rw [meets.extended.rest]
      cases rest : c.rest with
      | nil => simp [rest] at more
      | cons x cs => rfl
    rw [one "\n" rfl, one ";" rfl, one "\x7d" rfl, empty]
    exact .pure meets _

/-- Statements in a body. -/
theorem statementList_alike : ∀ {fuel fuel' : Nat}, fuel ≤ fuel' →
    (Seam.atLine behind).Alike (statementList body true fuel) (statementList body true fuel')
  | 0, _, _ => .fail
  | fuel + 1, fuel' + 1, enough => by
    refine ⟨keeps_lost _, fun {c d} meets => ?_⟩
    rw [statementList, statementList]
    refine .passingBlanks ?_
    by_cases all : c.rest.drop (gapLength isSeparator false c.rest) = []
    · exact .of_refused (by simp [all])
    have next : (Seam.atLine behind).Alike (do
        let s ← statement body
        skipSpace
        unless ← statementEnds true do failFound .expectedStatementEnd
        return s :: (← statementList body true fuel)) (do
        let s ← statement body
        skipSpace
        unless ← statementEnds true do failFound .expectedStatementEnd
        return s :: (← statementList body true fuel')) := by
      refine (statement_alike h noElse).bind fun _ => Seam.skipSpace_alike.bind fun _ => ?_
      refine (statementEnds_alike true).orStop .failFound fun _ => ?_
      exact (statementList_alike (Nat.le_of_succ_le_succ enough)).bind fun _ => .pure _
    have meets' := meets.passBlanks all
    have more : (c.pass (gapLength isSeparator false c.rest)).rest.isEmpty = false := by
      simpa using all
    have more' : (d.pass (gapLength isSeparator false d.rest)).rest.isEmpty = false := by
      rw [meets'.extended.rest]
      simp [all]
    refine .ending ?_
    rw [more, more']
    exact ((Seam.peek_alike (by decide)).whether (.pure []) next).tracks meets'

omit h in
theorem statementsWithin_alike : ∀ levels : Nat,
    (Seam.atLine behind).Alike (statementsWithin true levels) (statementsWithin true levels)
  | 0 => .fail
  | levels + 1 => by
    rw [statementsWithin]
    refine .looking (fun _ => keeps_lost _) fun {c d} meets => ?_
    have enough : c.rest.length + 1 ≤ d.rest.length + 1 :=
      Nat.succ_le_succ ((Seam.atLine behind).length meets).2
    exact (statementList_alike (braced_alike (statementsWithin_alike levels)) noElse enough).tracks
      meets

end Bodies

end Line

end Stencil.Script
