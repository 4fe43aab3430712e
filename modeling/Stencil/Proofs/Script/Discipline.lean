import Stencil.Proofs.Script.Rounds
import Stencil.Proofs.Script.Trails

/-!
# The discipline of the cursor

What a text is read with in memory is an offset that is moved by unchecked numbers of bytes, and
counters beside it. Every reader keeps it sound, at each single step, from wherever it is sound
(`Careful`): the offset is a border of two characters, the line is one more than the breaks in front
of it, and the start of the line is behind the last of them. A text is read as it is with a cursor
that passes characters, and an error is at such a border (`Followed`). What a construct counts is
taken back where it ends, whether it has been read or not (`Balanced`). Whatever has been read as an
expression or a statement is not empty (`MovesOn`), so every loop comes to an end (`LoopsEnd`).
-/

namespace Stencil

namespace Script

variable {α : Type} {text : List Char} {t t' : Trail} {E : Error → Prop}

/-! ### Every step -/

/-- A reader is as good as one of cursors for the steps of its trail. -/
theorem Keeps.sound {q : Scan Trail α} {p : Parse α} (h : Keeps (Trail.At text) E q p)
    (sound : t.Sound text) : (q.run.run t).2.Sound text :=
  (h _ _ (.of_sound sound)).there.sound

/-- An error with the line and the column of a sound cursor. -/
def Error.AtBorder (text : List Char) (e : Error) : Prop :=
  ∃ b : ByteCursor, b.Sound text ∧ e.line = b.line ∧ e.column = b.column

theorem Error.On.atBorder {e : Error} (h : e.On text) : e.AtBorder text := by
  obtain ⟨passed, ⟨rest, rfl⟩, line, column⟩ := h
  have place : (ByteCursor.between passed rest 0 0).view.place = Location.start.after passed := by
    rw [ByteCursor.view_between]
  refine ⟨.between passed rest 0 0, ByteCursor.sound_between, ?_, ?_⟩
  · rw [line, ← place]
    rfl
  · rw [column, ← place]
    rfl

/-- What a whole text is read with has a sound cursor at each of its steps, yields what the text is
read as, and reports errors at borders of the text. -/
structure Followed (read : List Char → Except Error α) (q : Scan Trail α) : Prop where
  same : ∀ text, (q.run.run (.start text)).1 = read text
  steps : ∀ text, (q.run.run (.start text)).2.Sound text
  reports : ∀ text e, read text = .error e → e.AtBorder text

theorem Trail.sound_start (text : List Char) : (Trail.start text).Sound text := by
  rintro b here
  obtain rfl := List.mem_singleton.1 here
  have sound : (ByteCursor.between [] text 0 0).Sound ([] ++ text) := ByteCursor.sound_between
  exact sound

theorem followed {q : Scan Trail α} {p : Parse α}
    (h : ∀ text, Keeps (Trail.At text) (Error.On text) q p) : Followed (run p) q := by
  have start (text : List Char) : (Trail.start text).At text (.start text) := by
    have here := Trail.At.of_sound (Trail.sound_start text)
    rwa [Trail.start, ByteCursor.start_eq, ByteCursor.view_between] at here
  have agree (text : List Char) := h text _ _ (start text)
  refine ⟨fun text => (agree text).same, fun text => (agree text).there.sound, ?_⟩
  intro text e refused
  exact ((agree text).fails e refused).atBorder

/-- The readers that the readers of whole texts are made of, over expressions and bodies that are
read within `levels` levels. -/
inductive IsReader (levels : Nat) : {α : Type} → Scan Trail α → Prop
  | skip (blank : Char → Bool) : IsReader levels (skip blank)
  | skipSpace : IsReader levels skipSpace
  | accept {piece : String} (plain : '\n' ∉ piece.toList) : IsReader levels (accept piece)
  | expect {piece : String} (plain : '\n' ∉ piece.toList) : IsReader levels (expect piece)
  | acceptKeyword (keyword : String) : IsReader levels (acceptKeyword keyword)
  | expectKeyword (keyword : String) : IsReader levels (expectKeyword keyword)
  | identifier : IsReader levels identifier
  | expectEnd : IsReader levels expectEnd
  | number : IsReader levels number
  | codePoint : IsReader levels codePoint
  | escaped (atEnd : Error) : IsReader levels (escaped atEnd)
  | stringBody (quote : Char) (atEnd : Error) (fuel : Nat) :
      IsReader levels (stringBody quote atEnd fuel)
  | items (close : String) (fuel : Nat) :
      IsReader levels (items (expressionWithin levels) close fuel)
  | sequence {close : String} (plain : '\n' ∉ close.toList) :
      IsReader levels (sequence (expressionWithin levels) close)
  | arguments : IsReader levels (arguments (expressionWithin levels))
  | enclosed {close : String} (plain : '\n' ∉ close.toList) :
      IsReader levels (enclosed (expressionWithin levels) close)
  | primary : IsReader levels (primary (expressionWithin levels))
  | afterPoint (e : Expr) : IsReader levels (afterPoint (expressionWithin levels) e)
  | trailer (e : Expr) : IsReader levels (trailer (expressionWithin levels) e)
  | trailed : IsReader levels (trailed (expressionWithin levels))
  | negated (fuel : Nat) : IsReader levels (negated (expressionWithin levels) fuel)
  | moreFactors (left : Expr) : IsReader levels (moreFactors (expressionWithin levels) left)
  | product : IsReader levels (product (expressionWithin levels))
  | moreTerms (left : Expr) : IsReader levels (moreTerms (expressionWithin levels) left)
  | sum : IsReader levels (sum (expressionWithin levels))
  | relation? : IsReader levels relation?
  | acceptNotIn : IsReader levels acceptNotIn
  | compared (left : Expr) : IsReader levels (compared (expressionWithin levels) left)
  | comparison : IsReader levels (comparison (expressionWithin levels))
  | acceptNot : IsReader levels acceptNot
  | denied (fuel : Nat) : IsReader levels (denied (expressionWithin levels) fuel)
  | moreConjuncts (left : Expr) : IsReader levels (moreConjuncts (expressionWithin levels) left)
  | conjunction : IsReader levels (conjunction (expressionWithin levels))
  | moreDisjuncts (left : Expr) : IsReader levels (moreDisjuncts (expressionWithin levels) left)
  | disjunction : IsReader levels (disjunction (expressionWithin levels))
  | moreFilters (e : Expr) : IsReader levels (moreFilters (expressionWithin levels) e)
  | filtered : IsReader levels (filtered (expressionWithin levels))
  | expression : IsReader levels (expressionWithin levels)
  | assignOp? : IsReader levels assignOp?
  | assignment? : IsReader levels assignment?
  | forHead : IsReader levels forHead
  | block : IsReader levels (braced (statementsWithin true levels))
  | elseTail (fuel : Nat) : IsReader levels (elseTail (braced (statementsWithin true levels)) fuel)
  | statement : IsReader levels (statement (braced (statementsWithin true levels)))
  | statementList (inBody : Bool) (fuel : Nat) :
      IsReader levels (statementList (braced (statementsWithin true levels)) inBody fuel)
  | statements (inBody : Bool) : IsReader levels (statementsWithin inBody levels)
  | header : IsReader levels header

/-- Whatever an inner reader does with a trail of bytes, a reader of cursors does as well. -/
theorem IsReader.keeps {levels : Nat} {q : Scan Trail α} (h : IsReader levels q)
    (text : List Char) : ∃ p : Parse α, Keeps (Trail.At text) (fun _ => True) q p := by
  have lasting := (lasting_at text).whatever
  have whole := expressionWithin_keeps lasting levels
  have body := braced_keeps lasting (statementsWithin_keeps lasting true levels)
  cases h with
  | skip blank => exact ⟨_, skip_keeps lasting blank⟩
  | skipSpace => exact ⟨_, skipSpace_keeps lasting⟩
  | accept plain => exact ⟨_, accept_keeps lasting plain⟩
  | expect plain => exact ⟨_, expect_keeps lasting plain⟩
  | acceptKeyword keyword => exact ⟨_, acceptKeyword_keeps lasting keyword⟩
  | expectKeyword keyword => exact ⟨_, expectKeyword_keeps lasting keyword⟩
  | identifier => exact ⟨_, identifier_keeps lasting⟩
  | expectEnd => exact ⟨_, expectEnd_keeps lasting⟩
  | number => exact ⟨_, number_keeps lasting⟩
  | codePoint => exact ⟨_, codePoint_keeps lasting⟩
  | escaped atEnd => exact ⟨_, escaped_keeps lasting trivial⟩
  | stringBody quote atEnd fuel => exact ⟨_, stringBody_keeps lasting trivial quote fuel⟩
  | items close fuel => exact ⟨_, items_keeps lasting whole close fuel⟩
  | sequence plain => exact ⟨_, sequence_keeps lasting whole plain⟩
  | arguments => exact ⟨_, arguments_keeps lasting whole⟩
  | enclosed plain => exact ⟨_, enclosed_keeps lasting whole plain⟩
  | primary => exact ⟨_, primary_keeps lasting whole⟩
  | afterPoint e => exact ⟨_, afterPoint_keeps lasting whole e⟩
  | trailer e => exact ⟨_, trailer_keeps lasting whole e⟩
  | trailed => exact ⟨_, trailed_keeps lasting whole⟩
  | negated fuel => exact ⟨_, negated_keeps lasting whole fuel⟩
  | moreFactors left => exact ⟨_, moreFactors_keeps lasting whole left⟩
  | product => exact ⟨_, product_keeps lasting whole⟩
  | moreTerms left => exact ⟨_, moreTerms_keeps lasting whole left⟩
  | sum => exact ⟨_, sum_keeps lasting whole⟩
  | relation? => exact ⟨_, relation?_keeps lasting⟩
  | acceptNotIn => exact ⟨_, acceptNotIn_keeps lasting⟩
  | compared left => exact ⟨_, compared_keeps lasting whole left⟩
  | comparison => exact ⟨_, comparison_keeps lasting whole⟩
  | acceptNot => exact ⟨_, acceptNot_keeps lasting⟩
  | denied fuel => exact ⟨_, denied_keeps lasting whole fuel⟩
  | moreConjuncts left => exact ⟨_, moreConjuncts_keeps lasting whole left⟩
  | conjunction => exact ⟨_, conjunction_keeps lasting whole⟩
  | moreDisjuncts left => exact ⟨_, moreDisjuncts_keeps lasting whole left⟩
  | disjunction => exact ⟨_, disjunction_keeps lasting whole⟩
  | moreFilters e => exact ⟨_, moreFilters_keeps lasting whole e⟩
  | filtered => exact ⟨_, filtered_keeps lasting whole⟩
  | expression => exact ⟨_, whole⟩
  | assignOp? => exact ⟨_, assignOp?_keeps lasting⟩
  | assignment? => exact ⟨_, assignment?_keeps lasting⟩
  | forHead => exact ⟨_, forHead_keeps lasting⟩
  | block => exact ⟨_, body⟩
  | elseTail fuel => exact ⟨_, elseTail_keeps lasting body fuel⟩
  | statement => exact ⟨_, statement_keeps lasting body⟩
  | statementList inBody fuel => exact ⟨_, statementList_keeps lasting body inBody fuel⟩
  | statements inBody => exact ⟨_, statementsWithin_keeps lasting inBody levels⟩
  | header => exact ⟨_, header_keeps lasting⟩

/-- From a sound trail, every inner reader makes sound steps only, whether it yields something or
fails. The reader of strings does so in front of the quote, which it does not look at. -/
structure Careful (levels : Nat) : Prop where
  inner : ∀ {α : Type} {q : Scan Trail α}, IsReader levels q → ∀ text (t : Trail), t.Sound text →
    (q.run.run t).2.Sound text
  quoted : ∀ quote text (t : Trail), t.Sound text → t.cursor.rest.head? = some quote →
    ((quoted quote).run.run t).2.Sound text
  restored : ∀ text (start t : Trail), start.Sound text → t.Sound text →
    ((restore start).run.run t).2.Sound text

theorem careful (levels : Nat) : Careful levels where
  inner h text t sound := by
    obtain ⟨p, keeps⟩ := h.keeps text
    exact keeps.sound sound
  quoted quote text t sound next :=
    (quoted_agree (lasting_at text) (.of_sound sound) next).there.sound
  restored text start t before sound :=
    (restore_keeps (lasting_at text) (.of_sound before)).sound sound

/-! ### What is counted and taken back -/

/-- From a sound trail, a reader leaves a count as it has found it, whether it yields something or
fails. -/
def Leaves (count : ByteCursor → Nat) (q : Scan Trail α) : Prop :=
  ∀ text (t : Trail), t.Sound text → count (q.run.run t).2.cursor = count t.cursor

theorem Leaves.of_keeps {q : Scan Trail α} {p : Parse α}
    (h : ∀ text, Keeps (Trail.At text) (Error.On text) q p) : Leaves ByteCursor.brackets q := by
  intro text t sound
  have agree := h text _ _ (.of_sound sound)
  have counted := congrArg Cursor.brackets agree.there.view
  exact counted.trans agree.brackets

/-- A reader comes back to its level, whether it yields something or fails. -/
def Returns (p : Parse α) : Prop := ∀ c, (p.run.run c).2.depth = c.depth

theorem Leaves.of_returns {q : Scan Trail α} {p : Parse α} (level : Returns p)
    (h : ∀ text, Keeps (Trail.At text) (Error.On text) q p) : Leaves ByteCursor.depth q := by
  intro text t sound
  have agree := h text _ _ (.of_sound sound)
  have counted := congrArg Cursor.depth agree.there.view
  exact counted.trans (level _)

/-- Expressions, blocks and sequences leave the brackets as they have found them, although each that
has been opened is just counted off again, and the first two leave the level as well. -/
structure Balanced (levels : Nat) : Prop where
  expression : Leaves ByteCursor.brackets (expressionWithin levels)
  expression_depth : Leaves ByteCursor.depth (expressionWithin levels)
  block : Leaves ByteCursor.brackets (braced (statementsWithin true levels))
  block_depth : Leaves ByteCursor.depth (braced (statementsWithin true levels))
  sequence {close : String} (plain : '\n' ∉ close.toList) :
    Leaves ByteCursor.brackets (sequence (expressionWithin levels) close)

theorem Returns.bind {β : Type} {p : Parse α} {f : α → Parse β} (h : Returns p)
    (next : ∀ a, Returns (f a)) : Returns (p >>= f) := by
  intro c
  have first := h c
  rw [run_bind]
  cases ran : p.run.run c with
  | mk result c' =>
      rw [ran] at first
      cases result with
      | ok a => exact (next a c').trans first
      | error e => exact first

theorem expect_returns (piece : String) : Returns (expect piece) := by
  have accepts : Returns (accept piece) := by
    refine Returns.bind (fun _ => rfl) fun found => ?_
    cases found with
    | true => exact Returns.bind (fun _ => rfl) fun _ _ => rfl
    | false => exact fun _ => rfl
  refine accepts.bind fun found => ?_
  cases found with
  | true => exact fun _ => rfl
  | false => exact fun _ => rfl

theorem braced_returns (statements : Parse (List Stmt)) : Returns (braced statements) := by
  refine Returns.bind (fun _ => rfl) fun _ => (expect_returns _).bind fun _ => ?_
  exact Returns.bind (fun _ => rfl) fun _ => (expect_returns _).bind fun _ _ => rfl

theorem expressionWithin_returns : ∀ levels : Nat, Returns (expressionWithin levels)
  | 0, _ => rfl
  | _ + 1, _ => rfl

theorem block_keeps (levels : Nat) (text : List Char) : Keeps (Trail.At text) (Error.On text)
    (braced (statementsWithin true levels)) (braced (statementsWithin true levels)) :=
  braced_keeps (lasting_at text) (statementsWithin_keeps (lasting_at text) true levels)

theorem balanced (levels : Nat) : Balanced levels where
  expression := .of_keeps fun text => expressionWithin_keeps (lasting_at text) levels
  expression_depth := .of_returns (expressionWithin_returns levels)
    fun text => expressionWithin_keeps (lasting_at text) levels
  block := .of_keeps (block_keeps levels)
  block_depth := .of_returns (braced_returns _) (block_keeps levels)
  sequence plain := .of_keeps fun text =>
    sequence_keeps (lasting_at text) (expressionWithin_keeps (lasting_at text) levels) plain

/-! ### Getting on -/

/-- From a sound trail, whatever a reader yields is behind more bytes. -/
def Gains (q : Scan Trail α) : Prop :=
  ∀ text (t : Trail), t.Sound text → ∀ a t', q.run.run t = (.ok a, t') →
    t.cursor.offset < t'.cursor.offset

theorem Gains.of_advances {q : Scan Trail α} {p : Parse α} (advances : Advances p)
    (h : ∀ text, Keeps (Trail.At text) (Error.On text) q p) : Gains q := by
  intro text t sound a t' ran
  have agree := h text _ _ (.of_sound sound)
  have same := agree.same
  have there := congrArg (·.place.offset) agree.there.view
  rw [ran] at same there
  cases read : p.run.run t.cursor.view with
  | mk result c' =>
      rw [read] at same there
      obtain rfl : .ok a = result := same
      exact (advances _ _ _ read).offset.trans_eq there.symm

/-- Behind an expression or a statement the offset is greater than in front of it. -/
structure MovesOn (levels : Nat) : Prop where
  expression : Gains (expressionWithin levels)
  statement : Gains (statement (braced (statementsWithin true levels)))

theorem block_keepsOn (levels : Nat) : KeepsOn (braced (statementsWithin true levels)) :=
  fun c => braced_keeps (lasting_ahead c) (statementsWithin_keeps (lasting_ahead c) true levels)

theorem movesOn (levels : Nat) : MovesOn levels where
  expression := .of_advances (expressionWithin_advances levels)
    fun text => expressionWithin_keeps (lasting_at text) levels
  statement := .of_advances (statement_advances (block_keepsOn levels))
    fun text => statement_keeps (lasting_at text) (block_keeps levels text)

/-- The loops of the readers end: that over the characters of a string, those over items, statements
and the branches of a conditional, and those over the operators of each strength. -/
structure LoopsEnd (levels : Nat) : Prop where
  string (quote : Char) (atEnd : Error) :
    Ending (stringBody quote atEnd) (stringRound quote atEnd)
  items (close : String) :
    Ending (items (expressionWithin levels) close) (itemsRound (expressionWithin levels) close)
  statements (inBody : Bool) :
    Ending (statementList (braced (statementsWithin true levels)) inBody)
      (statementsRound (braced (statementsWithin true levels)) inBody)
  branches : Ending (elseTail (braced (statementsWithin true levels)))
    (branchRound (braced (statementsWithin true levels)))
  trailers : Ceasing (trailer (expressionWithin levels))
  factors : Ceasing (moreFactors (expressionWithin levels))
  terms : Ceasing (moreTerms (expressionWithin levels))
  conjuncts : Ceasing (moreConjuncts (expressionWithin levels))
  disjuncts : Ceasing (moreDisjuncts (expressionWithin levels))
  filters : Ceasing (moreFilters (expressionWithin levels))

theorem loopsEnd (levels : Nat) : LoopsEnd levels := by
  have keeps := expressionWithin_keeps lasting_true levels
  have block := block_keepsOn levels
  exact {
    string := fun quote atEnd => (stringRound_forward quote atEnd).ending fun _ => rfl
    items := fun close =>
      (itemsRound_forward (expressionWithin_advances levels) close).ending fun _ => rfl
    statements := fun inBody => (statementsRound_forward block inBody).ending fun _ => rfl
    branches := (branchRound_forward block).ending fun _ => rfl
    trailers := ceasing_of_deepens (trailer_deepens keeps)
    factors := ceasing_of_deepens (moreFactors_deepens keeps)
    terms := ceasing_of_deepens (moreTerms_deepens keeps)
    conjuncts := ceasing_of_deepens (moreConjuncts_deepens keeps)
    disjuncts := ceasing_of_deepens (moreDisjuncts_deepens keeps)
    filters := ceasing_of_deepens (moreFilters_deepens keeps) }

/-- Whole texts are read as they are with cursors of characters, at borders of the text at every
step, and errors are reported at such borders. So are the parts of a text from wherever the cursor
is sound; what is counted is taken back, what is read is not empty, and all loops end. -/
theorem cursor_discipline :
    Followed readStatements wholeStatements ∧ Followed readExpression wholeExpression ∧
      Followed readHeader wholeHeader ∧
      ∀ levels, Careful levels ∧ Balanced levels ∧ MovesOn levels ∧ LoopsEnd levels :=
  ⟨followed fun text => wholeStatements_keeps (lasting_at text),
    followed fun text => wholeExpression_keeps (lasting_at text),
    followed fun text => wholeHeader_keeps (lasting_at text),
    fun levels => ⟨careful levels, balanced levels, movesOn levels, loopsEnd levels⟩⟩

/-- Columns are counted in bytes, from the last line break on. -/
example : readStatements "x\n\"é\" ?".toList =
    .error ⟨2, 6, .expectedStatementEnd (.text "?")⟩ := by
  cbv

end Script

end Stencil
