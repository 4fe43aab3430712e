import Stencil.Program
import Stencil.Proofs.Script.Joined

/-!
# Two blocks of statements as one

The statements of two texts with a line break between them are those of the one text and those of
the other. The reader comes to the second text at the depth at which it started, outside brackets,
and with the steps that are left for it, so it reads there what it reads in the second text alone.
-/

namespace Stencil.Script

/-! ### The depth between statements -/

/-- The reader comes back to the depth at which it starts. -/
def KeepsDepth {α : Type} (p : Parse α) : Prop := ∀ c, Yields p c fun _ c' => c'.depth = c.depth

namespace KeepsDepth

variable {α β : Type} {p q : Parse α}

theorem pure (a : α) : KeepsDepth (Pure.pure a) := fun _ => Yields.pure_iff.2 rfl

theorem bind {f : α → Parse β} (h : KeepsDepth p) (next : ∀ a, KeepsDepth (f a)) :
    KeepsDepth (p >>= f) := by
  intro c
  rw [Yields.bind_iff]
  refine (h c).mono fun a c' same => (next a c').mono fun b c'' same' => ?_
  exact same'.trans same

theorem whether {x : Parse Bool} (test : KeepsDepth x) (h : KeepsDepth p) (h' : KeepsDepth q) :
    KeepsDepth (do if ← x then p else q) := by
  refine test.bind fun found => ?_
  cases found with
  | true => exact h
  | false => exact h'

theorem keepingDepth (p : Parse α) : KeepsDepth (keepingDepth p) := fun c => by simp

theorem expression : KeepsDepth expression := .keepingDepth _

theorem acceptKeyword (keyword : String) : KeepsDepth (acceptKeyword keyword) := fun c => by simp

theorem identifier : KeepsDepth identifier := fun c => by simp

theorem skipSpace : KeepsDepth skipSpace := fun c => by simp

theorem expect (s : String) : KeepsDepth (expect s) := fun c => by simp

theorem forHead : KeepsDepth forHead :=
  identifier.bind fun _ => .bind (fun c => by simp) fun _ => expression.bind fun _ => .pure _

theorem assignment? : KeepsDepth assignment? := by
  intro c
  simp [Script.assignment?, assignOp?]

section Bodies

variable {body : Parse (List Stmt)}

theorem braced : KeepsDepth (braced body) :=
  skipSpace.bind fun _ => (expect _).bind fun _ => (keepingDepth _).bind fun _ =>
    (expect _).bind fun _ => .pure _

variable (h : KeepsDepth body)

include h

theorem elseTail : ∀ fuel : Nat, KeepsDepth (elseTail body fuel)
  | 0 => fun c => by simp [Script.elseTail]
  | fuel + 1 => by
    have branch : KeepsDepth
        (do return Else.elif (← Script.expression) (← body) (← Script.elseTail body fuel)) :=
      expression.bind fun _ => h.bind fun _ => (elseTail fuel).bind fun _ => .pure _
    have otherwise : KeepsDepth (do
        Script.skipSpace
        if ← Script.acceptKeyword "if" then
          return Else.elif (← Script.expression) (← body) (← Script.elseTail body fuel)
        return .block (← body)) :=
      skipSpace.bind fun _ => (acceptKeyword _).whether branch (h.bind fun _ => .pure _)
    intro c
    rw [Script.elseTail]
    rw [Yields.bind_iff, Yields.get_iff, Yields.bind_iff, Yields.skip_iff, Yields.bind_iff,
      Yields.acceptKeyword_iff]
    refine ⟨fun _ => branch _, fun _ => ?_⟩
    rw [if_neg Bool.false_ne_true, Yields.bind_iff, Yields.acceptKeyword_iff]
    exact ⟨fun _ => otherwise _, fun _ => by simp⟩

theorem statement : KeepsDepth (statement body) := by
  unfold Script.statement
  refine skipSpace.bind fun _ => (acceptKeyword _).whether ?_ ?_
  · exact identifier.bind fun _ => skipSpace.bind fun _ => (expect _).bind fun _ =>
      expression.bind fun _ => .pure _
  refine (acceptKeyword _).whether ?_ ?_
  · refine expression.bind fun _ => h.bind fun _ => .bind (fun c => by simp) fun start => ?_
    exact (elseTail h _).bind fun _ => .pure _
  refine (acceptKeyword _).whether ?_ ?_
  · exact forHead.bind fun _ => h.bind fun _ => .pure _
  refine (acceptKeyword _).whether ?_ ?_
  · exact expression.bind fun _ => h.bind fun _ => .pure _
  refine (acceptKeyword _).whether (.pure _) ?_
  refine (acceptKeyword _).whether (.pure _) ?_
  refine assignment?.bind ?_
  rintro (_ | ⟨name, op⟩)
  · exact expression.bind fun _ => .pure _
  · exact expression.bind fun _ => .pure _

end Bodies

end KeepsDepth

/-! ### The text behind the first statements -/

/-- The reader of statements between no braces yields `ss` from all cursors at the start of a text,
with `steps` steps or more. -/
def ReadsAs (body : Parse (List Stmt)) (text : List Char) (ss : List Stmt) (steps : Nat) : Prop :=
  ∀ (fuel : Nat) (d : Cursor), steps ≤ fuel → d.rest = text → d.brackets = 0 → d.depth = 0 →
    Ends (statementList body false fuel) d (fun ss' d' => ss' = ss ∧ d'.rest = []) fun _ => False

section Joined

variable {tail : List Char} {behind : Behind tail} {body : Parse (List Stmt)} {more : List Stmt}
variable {extra : Nat}

/-- Blanks that are passed between statements may have been passed before. -/
theorem statementList_passed {Q : List Stmt → Cursor → Prop} {E : Error → Prop} {d : Cursor}
    {fuel n : Nat}
    (blanks : gapLength isSeparator false d.rest = n + gapLength isSeparator false (d.pass n).rest)
    (h : Ends (statementList body false (fuel + 1)) (d.pass n) Q E) :
    Ends (statementList body false (fuel + 1)) d Q E := by
  rw [statementList, Ends.bind_iff, Ends.skip_iff] at h ⊢
  rwa [blanks, ← Cursor.pass_pass]

/-- Reads a statement between no braces, and what ends it. -/
def separate (body : Parse (List Stmt)) : Parse Stmt := do
  let s ← statement body
  skipSpace
  unless ← statementEnds false do failFound .expectedStatementEnd
  return s

theorem statementList_succ (fuel : Nat) :
    statementList body false (fuel + 1) = do
      skip isSeparator
      if ← atEnd then return []
      else return (← separate body) :: (← statementList body false fuel) := by
  rw [statementList]
  refine bind_congr fun _ => bind_congr fun ends => ?_
  cases ends with
  | true => rfl
  | false =>
      simp only [separate, bind_assoc, Bool.false_eq_true, if_false]
      refine bind_congr fun s => bind_congr fun _ => bind_congr fun found => ?_
      cases found <;> simp

theorem separate_alike (h : (Seam.atLine behind).Alike body body) (noElse : NoElse tail) :
    (Seam.atLine behind).Alike (separate body) (separate body) :=
  (statement_alike h noElse).bind fun _ => Seam.skipSpace_alike.bind fun _ =>
    (statementEnds_alike false).orStop .failFound fun _ => .pure _

theorem KeepsDepth.separate (h : KeepsDepth body) : KeepsDepth (separate body) := by
  refine (KeepsDepth.statement h).bind fun _ => .bind .skipSpace fun _ => ?_
  have ends : KeepsDepth (statementEnds false) := fun c => by simp [statementEnds]
  exact ends.whether (.pure _) (.bind (fun c => by simp) fun _ => .pure _)

variable (h : (Seam.atLine behind).Alike body body) (level : KeepsDepth body) (noElse : NoElse tail)
variable (reads : ReadsAs body tail more (extra + 1))

include h level noElse reads

/-- The statements of a text are read in front of those of the text behind it. -/
theorem statementList_joins : ∀ (fuel fuel' : Nat), fuel + extra ≤ fuel' →
    ∀ {c d : Cursor}, AtLineEnd tail c d → c.depth = 0 →
      Yields (statementList body false fuel) c fun ss _ =>
        Ends (statementList body false fuel') d (fun ss' d' => ss' = ss ++ more ∧ d'.rest = [])
          fun _ => False
  | 0, _, _, _, _, _, _ => by simp [statementList]
  | fuel + 1, 0, enough, _, _, _, _ => absurd enough (by omega)
  | fuel + 1, fuel' + 1, enough, c, d, meets, start => by
    rw [statementList_succ, Yields.bind_iff, Yields.skip_iff, Yields.bind_iff, Yields.atEnd_iff]
    by_cases all : c.rest.drop (gapLength isSeparator false c.rest) = []
    · have ends : (c.pass (gapLength isSeparator false c.rest)).rest.isEmpty = true := by
        simp [all]
      rw [ends, if_pos rfl, Yields.pure_iff, List.nil_append]
      refine statementList_passed (n := c.rest.length) ?_ (reads _ _ ?_ ?_ ?_ ?_)
      · rw [Cursor.rest_pass, meets.extended.rest, gapLength_all rfl behind all, List.drop_left]
      · omega
      · rw [Cursor.rest_pass, meets.extended.rest, List.drop_left]
      · exact meets.extended.brackets.symm.trans meets.outside
      · exact meets.extended.depth.symm.trans start
    · have more : (c.pass (gapLength isSeparator false c.rest)).rest.isEmpty = false := by
        simpa using all
      have meets' := meets.passBlanks all
      have more' : (d.pass (gapLength isSeparator false d.rest)).rest.isEmpty = false := by
        rw [meets'.extended.rest]
        simp [all]
      rw [more, if_neg Bool.false_ne_true, Yields.bind_iff]
      intro s c' ran
      have restored : c'.depth = 0 := (level.separate _ s c' ran).trans start
      have same := (separate_alike h noElse).tracks meets' s c' ran (Nat.zero_le _)
      rw [Yields.bind_iff]
      intro ss c'' ran'
      rw [Yields.pure_iff, statementList_succ, Ends.bind_iff, Ends.skip_iff, Ends.bind_iff,
        Ends.atEnd_iff, more', if_neg Bool.false_ne_true, Ends.bind_iff]
      refine same.mono ?_ fun _ excused => excused.1
      rintro _ d' ⟨rfl, meets''⟩
      rw [Ends.bind_iff]
      refine (statementList_joins fuel fuel' (by omega) meets'' restored ss c'' ran').imp ?_
      rintro _ d'' ⟨rfl, ended⟩
      exact ⟨rfl, ended⟩

end Joined

/-! ### Whole texts -/

def outerBody : Parse (List Stmt) := braced (statementsWithin true maxDepth)

theorem outerBody_alike {tail : List Char} {behind : Behind tail} (noElse : NoElse tail) :
    (Seam.atLine behind).Alike outerBody outerBody :=
  braced_alike (statementsWithin_alike noElse maxDepth)

/-- A keyword that is not there. -/
theorem Yields.noKeyword {α : Type} {c : Cursor} {p q : Parse α} {Q : α → Cursor → Prop}
    {keyword : String} (other : c.word ≠ keyword.toList) (h : Yields q c Q) :
    Yields (do if ← acceptKeyword keyword then p else q) c Q := by
  rw [Yields.bind_iff, Yields.acceptKeyword_iff]
  refine ⟨fun found => absurd found other, fun _ => ?_⟩
  rwa [if_neg Bool.false_ne_true]

section Else

variable {c : Cursor} (word : c.word = "elif".toList ∨ c.word = "else".toList)

include word

theorem rest_of_else : ∃ cs, c.rest = 'e' :: 'l' :: cs := by
  have nonempty : c.word ≠ [] := by
    rcases word with word | word <;> (rw [word]; decide)
  obtain ⟨cs, rest⟩ := Cursor.rest_of_word nonempty
  rcases word with word | word
  · exact ⟨_, by rw [rest, word]; rfl⟩
  · exact ⟨_, by rw [rest, word]; rfl⟩

/-- Neither an expression nor a statement starts with the rest of a conditional. -/
theorem barred_else : Barred c := by
  obtain ⟨cs, rest⟩ := rest_of_else word
  refine ⟨Cursor.startsWith_of_rest rest "-", Cursor.startsWith_of_rest rest "!", ?_, ?_⟩
  · rcases word with word | word <;> (rw [word]; decide)
  · intro whole depth
    obtain ⟨c', same⟩ : ∃ c', c' = { c with depth } := ⟨_, rfl⟩
    have rest' : c'.rest = 'e' :: 'l' :: cs := same ▸ rest
    have word' : c'.word = c.word := same ▸ rfl
    have solid : c'.skipped = c' := by
      refine skipped_solid ?_
      rw [rest']
      exact solid_cons (by decide) (by decide)
    rw [← same]
    rcases word with word | word
    · have word : c'.word = ['e', 'l', 'i', 'f'] := word'.trans word
      simp [primary, solid, rest', word, keywords]
    · have word : c'.word = ['e', 'l', 's', 'e'] := word'.trans word
      simp [primary, solid, rest', word, keywords]

theorem statement_else {body : Parse (List Stmt)} : Yields (statement body) c fun _ _ => False := by
  obtain ⟨cs, rest⟩ := rest_of_else word
  have solid : c.skipped = c := by
    refine skipped_solid ?_
    rw [rest]
    exact solid_cons (by decide) (by decide)
  have refused : Yields expression c fun _ _ => False :=
    Refuses.expressionWithin (maxDepth + 1) c (solid.symm ▸ barred_else word)
  have other (keyword : String) (free : keyword ≠ "elif" ∧ keyword ≠ "else") :
      c.word ≠ keyword.toList := by
    intro same
    rcases word with word | word
    · exact free.1 (String.toList_inj.1 (same.symm.trans word))
    · exact free.2 (String.toList_inj.1 (same.symm.trans word))
  have isKeyword : String.ofList c.word ∈ keywords := by
    rcases word with word | word <;> (rw [word]; decide)
  rw [statement, Yields.bind_iff, Yields.skipSpace_iff, solid]
  refine .noKeyword (other "let" (by decide)) (.noKeyword (other "if" (by decide)) ?_)
  refine .noKeyword (other "for" (by decide)) (.noKeyword (other "while" (by decide)) ?_)
  refine .noKeyword (other "break" (by decide)) (.noKeyword (other "continue" (by decide)) ?_)
  simp [assignment?, isKeyword, refused]

end Else

section Texts

variable {a b : List Char} {xs ys : List Stmt}

/-- Statements that are a whole text are read from other cursors as well. -/
theorem readsAs_of_readStatements (read : readStatements b = .ok ys) :
    ReadsAs outerBody b ys (b.length + 1) := by
  have nothing : NoElse [] := by
    intro c rest
    have none : c.rest = [] := rest
    simp [Cursor.word, none]
  have reads : ReadsAs outerBody [] [] (0 + 1) := by
    rintro (_ | fuel) d enough rest - -
    · omega
    · simp [statementList_succ, rest]
  refine Yields.of_run (P := fun ys => ReadsAs outerBody b ys (b.length + 1)) ?_ read
  simp only [wholeStatements, Yields.bind_iff, statementsWithin, Yields.look_iff,
    Yields.expectEnd_iff, Yields.pure_iff]
  intro ys c' ran _ fuel d enough rest brackets depth
  have meets : AtLineEnd [] (.start b) d :=
    ⟨rfl, rest.trans (List.append_nil b).symm, brackets.symm, depth.symm⟩
  have alike : (Seam.atLine .nothing).Alike outerBody outerBody := outerBody_alike nothing
  have joined := statementList_joins alike .braced nothing reads _ _ enough meets rfl ys c' ran
  simpa only [List.append_nil] using joined

/-- No conditional goes on in a text of statements. -/
theorem noElse_of_readStatements (read : readStatements b = .ok ys) : NoElse b := by
  intro c rest
  by_contra goesOn
  have word : c.word = "elif".toList ∨ c.word = "else".toList := by
    by_contra other
    exact goesOn (not_or.1 other)
  obtain ⟨cs, start⟩ := rest_of_else word
  have blanks : gapLength isSeparator false b = gapLength isSpaceOrBreak false b := by
    refine gapLength_widen (x := 'e') (fun x space => ?_) rfl false b ?_
    · rw [isSeparator, space, Bool.true_or]
    · rw [← rest, start]
      rfl
  have refused : Yields (do
      let statements ← statementsWithin false (maxDepth + 1)
      expectEnd
      return statements) (.start b) fun _ _ => False := by
    obtain ⟨c', skipped⟩ : ∃ c', c' = (Cursor.start b).pass (gapLength isSeparator false b) :=
      ⟨_, rfl⟩
    have rest' : c'.rest = c.rest := by
      rw [rest, skipped, blanks]
      rfl
    have word' : c'.word = c.word := by
      rw [Cursor.word, Cursor.word, Cursor.startsWithChar, Cursor.startsWithChar, rest']
    have more : c'.rest.isEmpty = false := by
      rw [rest', start]
      rfl
    have statement : Yields (statement outerBody) c' fun _ _ => False :=
      statement_else (word'.symm ▸ word)
    rw [statementsWithin, Yields.bind_iff, Yields.bind_iff, Yields.look_iff, statementList_succ,
      Yields.bind_iff, Yields.skip_iff]
    change Yields _ ((Cursor.start b).pass (gapLength isSeparator false b)) _
    rw [← skipped, Yields.bind_iff, Yields.atEnd_iff, more, if_neg Bool.false_ne_true,
      Yields.bind_iff, separate, Yields.bind_iff]
    exact statement.mono fun _ _ => False.elim
  exact Yields.of_run refused read

theorem readsAs_line {body : Parse (List Stmt)} {steps : Nat} (h : ReadsAs body b ys steps)
    (some : 0 < steps) : ReadsAs body ('\n' :: b) ys steps := by
  rintro (_ | fuel) d enough rest brackets depth
  · omega
  · have behind : (d.pass 1).rest = b := Cursor.rest_pass_one rest
    refine statementList_passed (n := 1) ?_ (h _ _ enough behind brackets depth)
    rw [behind, rest, Nat.add_comm]
    simp [gapLength, isSeparator, isSpaceOrBreak]

theorem readStatements_lines (read : readStatements a = .ok xs)
    (read' : readStatements b = .ok ys) :
    readStatements (a ++ '\n' :: b) = .ok (xs ++ ys) := by
  have noElse : NoElse ('\n' :: b) := by
    intro c rest
    refine noElse_of_readStatements read' c (rest.trans ?_)
    simp [gapLength, isSpaceOrBreak]
  have reads : ReadsAs outerBody ('\n' :: b) ys (b.length + 1) :=
    readsAs_line (readsAs_of_readStatements read') (Nat.succ_pos _)
  have joined : Ends (statementsWithin false (maxDepth + 1)) (.start (a ++ '\n' :: b))
      (fun ss d' => ss = xs ++ ys ∧ d'.rest = []) fun _ => False := by
    refine Yields.of_run (P := fun xs => Ends (statementsWithin false (maxDepth + 1))
      (.start (a ++ '\n' :: b)) (fun ss d' => ss = xs ++ ys ∧ d'.rest = []) fun _ => False) ?_ read
    simp only [wholeStatements, Yields.bind_iff, statementsWithin, Yields.look_iff,
      Yields.expectEnd_iff, Yields.pure_iff, Ends.bind_iff, Ends.look_iff]
    intro xs c' ran _
    have meets : AtLineEnd ('\n' :: b) (.start a) (.start (a ++ '\n' :: b)) := ⟨rfl, rfl, rfl, rfl⟩
    have enough : a.length + 1 + b.length ≤ (a ++ '\n' :: b).length + 1 := by
      rw [List.length_append, List.length_cons]
      omega
    have alike : (Seam.atLine (.line b)).Alike outerBody outerBody := outerBody_alike noElse
    exact statementList_joins alike .braced noElse reads _ _ enough meets rfl xs c' ran
  have whole : Ends (do
      let statements ← statementsWithin false (maxDepth + 1)
      expectEnd
      return statements) (.start (a ++ '\n' :: b)) (fun ss _ => ss = xs ++ ys) fun _ => False := by
    simp only [Ends.bind_iff, Ends.expectEnd_iff, Ends.pure_iff]
    refine joined.imp ?_
    rintro _ d' ⟨rfl, ended⟩
    simp [ended]
  rcases whole.of_run with ⟨_, read, rfl⟩ | ⟨_, _, impossible⟩
  · exact read
  · cases impossible

/-- Two blocks of statements next to each other make no other program than a single one. -/
theorem ofParts_merge (read : readStatements a = .ok xs) (read' : readStatements b = .ok ys)
    (p q r : Place) (after : List Part) : ∀ (before : List Part) (chain : Option Chain),
      Program.ofParts chain (before ++ .statements a p :: .statements b q :: after) =
        Program.ofParts chain (before ++ .statements (a ++ '\n' :: b) r :: after)
  | [], chain => by
    have block {code : List Char} {ss : List Stmt} (h : readStatements code = .ok ss)
        (place : Place) : Program.fragment (.statements code place) = .ok (.statements ss) := by
      rw [Program.fragment, h]
      rfl
    simp only [List.nil_append, Program.ofParts, block read, block read',
      block (readStatements_lines read read'), bind, Except.bind, pure, Except.pure]
    cases Program.ofParts none after with
    | error flaw => rfl
    | ok rest => simp [Chain.flush]
  | part :: before, chain => by
    simp only [List.cons_append, Program.ofParts, ofParts_merge read read' p q r after before]

/-- The statements of two texts with a line break between them are those of the first text and those
of the second one, so two blocks next to each other can be merged, or one can be split, without a
change to the program. -/
theorem readStatements_append (read : readStatements a = .ok xs)
    (read' : readStatements b = .ok ys) :
    readStatements (a ++ '\n' :: b) = .ok (xs ++ ys) ∧
      ∀ chain before after p q r,
        Program.ofParts chain (before ++ .statements a p :: .statements b q :: after) =
          Program.ofParts chain (before ++ .statements (a ++ '\n' :: b) r :: after) :=
  ⟨readStatements_lines read read', fun chain before after p q r =>
    ofParts_merge read read' p q r after before chain⟩

set_option maxRecDepth 4000 in
/-- A conditional with a comment behind it, and another statement. -/
theorem readStatements_append_commented :
    readStatements "if a { b } # c".toList = .ok [.branch (.var "a") [.expr (.var "b")] .nothing] ∧
      readStatements "d".toList = .ok [.expr (.var "d")] ∧
      readStatements "if a { b } # c\nd".toList =
        .ok [.branch (.var "a") [.expr (.var "b")] .nothing, .expr (.var "d")] := by
  have first : readStatements "if a { b } # c".toList =
      .ok [.branch (.var "a") [.expr (.var "b")] .nothing] := by
    cbv
  have second : readStatements "d".toList = .ok [.expr (.var "d")] := by cbv
  have text : "if a { b } # c\nd".toList = "if a { b } # c".toList ++ '\n' :: "d".toList := rfl
  refine ⟨first, second, ?_⟩
  rw [text]
  exact (readStatements_append first second).1

end Texts

end Stencil.Script
