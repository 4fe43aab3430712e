import Stencil.Proofs.Script.Calls
import Stencil.Proofs.Script.Expressions
import Stencil.Proofs.Script.Lines

/-!
# Written programs are read back

By induction on a program, the reader of statements takes the text of each statement for the
statement itself, with output written as calls, if there are enough levels for it. Where a condition
or a value is a chain of comparisons the reader stops in front of the second one, and fails there,
since neither a body nor the end of the statement follows.
-/

namespace Stencil

namespace Script

section Assignments

variable {brackets d p strength : Nat} {text tail cs : List Char} {c : Cursor} {e : Expr}
variable {E : Error → Prop}

/-- A complete expression is read back. -/
theorem expression_back {Q : Expr → Cursor → Prop} (legible : e.IsLegible Literal.IsReadable)
    (within : d ≤ maxDepth) (there : At brackets d (' ' :: e.chars ++ tail) c)
    (follows : Follows brackets 0 tail)
    (excused : ∀ err, Excuse e.climb.inside e.chains d err → E err)
    (next : d + e.climb.inside.peak ≤ maxDepth → ∀ c', At brackets d tail c' → Q e c')
    (stuck : e.chains = true → ∀ e' c', Stuck brackets c' → Q e' c') : Ends expression c Q E :=
  whole_back (fun levels => (Expr.readsBack legible).whole legible levels brackets)
    (enough_start within) there follows excused next stuck

/-- No operator of an assignment follows an operand: an equals sign is doubled. -/
theorem Follows.not_assign (h : Follows brackets p tail) (rest : c.rest = unspaced tail) :
    c.startsWith "+=" = false ∧ c.startsWith "-=" = false ∧
      (c.startsWith "=" = true → c.startsWith "==" = true) := by
  refine ⟨h.not_startsWith rest (by decide : strengthsOf "+=" = []) (by simp),
    h.not_startsWith rest (by decide : strengthsOf "-=" = []) (by simp), ?_⟩
  intro found
  obtain ⟨start, cs, mem, text, either⟩ := h.start_of_startsWith rest found
  have doubled : ∀ s ∈ continuations, "=".toList <+: s.2 ∨ s.2 <+: "=".toList →
      "==".toList <+: s.2 := by
    decide
  have within : "==".toList <+: start := doubled _ mem either
  rw [Cursor.startsWith, text, List.isPrefixOf_iff_prefix]
  exact within.trans (List.prefix_append start cs)

/-- A name with an operand or arguments behind it is not assigned to. -/
theorem assignOp?_none {Q : Option AssignOp → Cursor → Prop}
    (h : (∃ p, Follows brackets p cs) ∨ ∃ xs, cs = '(' :: xs) (there : At brackets d cs c)
    (next : Q none c.skipped) : Ends (skipSpace >>= fun _ => assignOp?) c Q E := by
  have other : c.skipped.startsWith "+=" = false ∧ c.skipped.startsWith "-=" = false ∧
      (c.skipped.startsWith "=" = true → c.skipped.startsWith "==" = true) := by
    rcases h with ⟨p, follows⟩ | ⟨xs, rfl⟩
    · exact follows.not_assign (there.skipped follows.solid).2
    · have rest := (there.skipped (solid_cons (by decide) (by decide))).2
      simp [Cursor.startsWith, rest, unspaced, List.isPrefixOf]
  obtain ⟨notAdd, notSub, notSet⟩ := other
  simp [assignOp?, notAdd, notSub]
  constructor
  · intro set single
    rw [notSet set] at single
    cases single
  · intro _
    exact next

/-- An expression is no assignment. -/
theorem assignment?_none {Q : Option (String × AssignOp) → Cursor → Prop}
    (h : Opening c.brackets strength c.rest) (next : Q none c) : Ends assignment? c Q E := by
  have keyword {word : List Char} (same : c.word = word)
      (isKeyword : String.ofList word ∈ keywords) : Ends assignment? c Q E := by
    simp [assignment?, same, isKeyword, next]
  rcases h.word rfl with word | ⟨-, word⟩ | word | word | word | ⟨free, cs, text, follows⟩
  · simp [assignment?, word, next]
  · exact keyword word (by decide)
  · exact keyword word (by decide)
  · exact keyword word (by decide)
  · exact keyword word (by decide)
  · have behind : At c.brackets c.depth cs (c.pass c.word.length) := by
      refine ⟨rfl, rfl, .inl ?_⟩
      rw [Cursor.rest_pass]
      nth_rewrite 1 [text]
      exact List.drop_left
    have noOperator : Ends (skipSpace >>= fun _ => assignOp?) (c.pass c.word.length)
        (fun op c' => op = none ∧ c' = (c.pass c.word.length).skipped) fun _ => False :=
      assignOp?_none follows behind ⟨rfl, rfl⟩
    rw [Ends.bind_iff, Ends.skipSpace_iff] at noOperator
    simp [assignment?, free, next]
    intro _
    refine noOperator.mono ?_ fun _ => False.elim
    rintro _ _ ⟨rfl, rfl⟩
    simpa using next

/-- A name and the operator behind it. -/
theorem assignment?_some {Q : Option (String × AssignOp) → Cursor → Prop} {name : String}
    {op : AssignOp} (isName : IsName name) (within : c.brackets = brackets) (atDepth : c.depth = d)
    (rest : c.rest = name.toList ++ ' ' :: (op.symbol.toList ++ ' ' :: cs))
    (next : ∀ c', At brackets d (' ' :: cs) c' → Q (some (name, op)) c') :
    Ends assignment? c Q E := by
  have word : c.word = name.toList := word_name isName (by rfl) rest
  have behind : At brackets d (' ' :: (op.symbol.toList ++ ' ' :: cs))
      (c.pass name.toList.length) := by
    refine ⟨within, atDepth, .inl ?_⟩
    rw [Cursor.rest_pass, rest]
    exact List.drop_left
  have solid : Solid brackets (unspaced (' ' :: (op.symbol.toList ++ ' ' :: cs))) := by
    cases op <;> exact solid_cons (by decide) (by decide)
  obtain ⟨at', rest'⟩ := behind.skipped solid
  simp [assignment?, word, isName.free, isName.nonempty]
  generalize (c.pass name.toList.length).skipped = c' at at' rest'
  have goes {n : Nat} (h : c'.rest.drop n = ' ' :: cs) :
      Q (some (name, op)) (c'.pass n) := next _ ⟨at'.brackets, at'.depth, .inl h⟩
  cases op with
  | set =>
      simp [assignOp?, Cursor.startsWith, rest', unspaced, AssignOp.symbol, List.isPrefixOf]
      exact goes (by rw [rest']; rfl)
  | add =>
      simp [assignOp?, Cursor.startsWith, rest', unspaced, AssignOp.symbol, List.isPrefixOf]
      exact goes (by rw [rest']; rfl)
  | sub =>
      simp [assignOp?, Cursor.startsWith, rest', unspaced, AssignOp.symbol, List.isPrefixOf]
      exact goes (by rw [rest']; rfl)

end Assignments

/-- What follows a conditional does not continue it. -/
def EndsBranches (text : List Char) : Prop :=
  ∀ c : Cursor, c.rest = text →
    (c.pass (gapLength isSpaceOrBreak false c.rest)).word ≠ ['e', 'l', 'i', 'f'] ∧
      (c.pass (gapLength isSpaceOrBreak false c.rest)).word ≠ ['e', 'l', 's', 'e']

/-- What the text of a body or of a program ends with. -/
inductive Closes : Bool → List Char → Prop
  | program : Closes false []
  | body (cs : List Char) : Closes true ('\x7d' :: cs)

section Blocks

variable {inBody : Bool} {row text closing : List Char} {c : Cursor}

theorem Starts.solid {blank : Char → Bool} (h : Starts text)
    (separates : ∀ x, blank x → isSeparator x) : gapLength blank false text = 0 := by
  obtain ⟨x, xs, rfl, solid, comment, -⟩ := h.head
  refine gapLength_solid ?_ comment
  by_contra isBlank
  have separator := separates x (by simpa using isBlank)
  rw [solid] at separator
  cases separator

theorem separator_of_spaceOrBreak (x : Char) (h : isSpaceOrBreak x) : isSeparator x := by
  simp [isSeparator, h]

theorem Starts.endsBranches (h : Starts text) (isBlank : IsBlank row) :
    EndsBranches (row ++ text) := by
  intro c rest
  exact h.word (rest_pass_blank rfl rfl isBlank (h.solid separator_of_spaceOrBreak) rest)

theorem Closes.solid {blank : Char → Bool} (h : Closes inBody closing)
    (separates : ∀ x, blank x → isSeparator x) : gapLength blank false closing = 0 := by
  cases h with
  | program => rfl
  | body cs =>
      refine gapLength_solid ?_ (by decide)
      by_contra isBlank
      have separator := separates _ (by simpa using isBlank)
      exact absurd separator (by decide)

theorem Closes.endsBranches (h : Closes inBody closing) (isBlank : IsBlank row) :
    EndsBranches (row ++ closing) := by
  intro c rest
  have rest' := rest_pass_blank rfl rfl isBlank (h.solid separator_of_spaceOrBreak) rest
  generalize c.pass _ = d at rest'
  have word : d.word = [] := by
    cases h with
    | program => simp [Cursor.word, rest', Cursor.startsWithChar]
    | body cs => exact word_sign rest' (by decide)
  simp [word]

/-- A line break and the lines behind it end a conditional. -/
theorem endsBranches_lines {ss : List Stmt} (legible : BlockIsLegible Literal.IsReadable ss)
    (depth : Nat) {endRow : List Char} (isBlank : IsBlank endRow) (closes : Closes inBody closing) :
    EndsBranches ('\n' :: (Stmt.blockChars depth ss ++ (endRow ++ closing))) := by
  cases ss with
  | nil =>
      have ended := closes.endsBranches (isBlank_break.append isBlank)
      rw [List.append_assoc] at ended
      exact ended
  | cons s ss =>
      rw [blockIsLegible_cons] at legible
      rw [Stmt.blockChars_cons]
      exact (Stmt.starts legible.1 depth _).endsBranches
        (isBlank_break.append (isBlank_indent depth))

end Blocks

/-! ### One lemma for each statement -/

/-- The cursor stands right at a text, outside all brackets. -/
structure AtLine (depth : Nat) (text : List Char) (c : Cursor) : Prop where
  brackets : c.brackets = 0
  depth : c.depth = depth
  rest : c.rest = text

section Bodies

variable {levels d depth : Nat} {text tail : List Char} {c : Cursor} {body : Parse (List Stmt)}
variable {ss : List Stmt} {E : Error → Prop}

theorem AtLine.at (h : AtLine d text c) : At 0 d text c := ⟨h.brackets, h.depth, .inl h.rest⟩

/-- The cursor behind some characters. -/
theorem AtLine.pass (h : AtLine d text c) {n : Nat} (left : text.drop n = tail) :
    AtLine d tail (c.pass n) :=
  ⟨h.brackets, h.depth, by rw [Cursor.rest_pass, h.rest, left]⟩

/-- The reader of bodies takes the text of some statements between braces for the statements. -/
def BodyReadsBack (ss : List Stmt) : Prop :=
  ∀ (levels depth : Nat) {d : Nat} {c : Cursor} {tail : List Char}
    {Q : List Stmt → Cursor → Prop} {E : Error → Prop}, Enough (levels + 1) d →
    At 0 d (Stmt.braced depth (Stmt.blockChars (depth + 1) ss) ++ tail) c →
    (∀ err, Excuse (blockClimb ss).inside (blockChains ss) d err → E err) →
    (d + (blockClimb ss).inside.peak ≤ maxDepth → ∀ c', AtLine d tail c' →
      Q (blockAsCalls ss) c') →
    Ends (braced (statementsWithin true levels)) c Q E

/-- A body does not start with an operator. -/
theorem Stuck.braced {Q : List Stmt → Cursor → Prop} (h : Stuck 0 c) (fails : ∀ err, E err) :
    Ends (braced body) c Q E := by
  have notBrace := h.not_startsWith (by decide : strengthsOf "\x7b" = [0]) (by decide)
  simp [Script.braced, notBrace, fails]

/-- An expression and the body behind it. -/
theorem headed_back {e : Expr} {Q : Expr → List Stmt → Cursor → Prop}
    (legible : e.IsLegible Literal.IsReadable) (reads : BodyReadsBack ss)
    (room : Enough (levels + 1) d)
    (there : At 0 d
      (' ' :: e.chars ++ (Stmt.braced depth (Stmt.blockChars (depth + 1) ss) ++ tail)) c)
    (excused : ∀ err, Excuse e.climb.inside e.chains d err → E err)
    (excused' : ∀ err, Excuse (blockClimb ss).inside (blockChains ss) d err → E err)
    (next : d + e.climb.inside.peak ≤ maxDepth → d + (blockClimb ss).inside.peak ≤ maxDepth →
      ∀ c', AtLine d tail c' → Q e (blockAsCalls ss) c') :
    Ends expression c (fun e c' =>
      Ends (braced (statementsWithin true levels)) c' (fun ss c'' => Q e ss c'') E) E := by
  have follows : Follows 0 0 (Stmt.braced depth (Stmt.blockChars (depth + 1) ss) ++ tail) := by
    rw [Stmt.braced_append]
    exact .brace _
  refine expression_back legible room.within there follows excused ?_ ?_
  · intro fits c' there'
    exact reads levels depth room there' excused' (next fits)
  · intro chains e' c' stuck
    exact stuck.braced fun err => excused err (.inl chains)

end Bodies

end Script

namespace Else

open Script

/-- The reader of what follows a branch takes the text for the rest of the conditional. -/
def ReadsBack (o : Else) : Prop :=
  ∀ (levels depth : Nat) {fuel d : Nat} {c : Cursor} {tail : List Char} {Q : Else → Cursor → Prop}
    {E : Error → Prop}, Enough (levels + 1) d →
    AtLine d (Stmt.elseChars depth o ++ '\n' :: tail) c → c.rest.length < fuel →
    EndsBranches ('\n' :: tail) → (∀ err, Excuse o.climb o.chains d err → E err) →
    (d + o.climb.peak ≤ maxDepth → ∀ c', AtLine d ('\n' :: tail) c' → Q o.asCalls c') →
    Ends (elseTail (braced (statementsWithin true levels)) fuel) c Q E

section ReadsBack

theorem readsBack_nothing : nothing.ReadsBack := by
  intro levels depth fuel d c tail Q E room there enough ends _ next
  obtain ⟨fuel, rfl⟩ := Nat.exists_eq_add_one_of_ne_zero (Nat.ne_of_gt (Nat.zero_lt_of_lt enough))
  obtain ⟨notElif, notElse⟩ := ends c there.rest
  simp [elseTail, notElif, notElse]
  exact next room.within c there

/-- The cursor behind the blank in front of a keyword. -/
theorem rest_keyword {c : Cursor} {x : Char} {cs : List Char} (isWord : isWordChar x)
    (rest : c.rest = ' ' :: x :: cs) :
    (c.pass (gapLength isSpaceOrBreak false c.rest)).rest = x :: cs := by
  have line : IsBlank [' '] := by simp [IsBlank]
  have noGap : gapLength isSpaceOrBreak false (x :: cs) = 0 := by
    obtain ⟨separator, comment, -⟩ := not_separator_word isWord
    refine gapLength_solid ?_ comment
    rw [isSeparator, Bool.or_eq_false_iff] at separator
    exact separator.1
  exact rest_pass_blank rfl rfl line noGap rest

theorem readsBack_block {body : List Stmt} (reads : BodyReadsBack body) :
    (block body).ReadsBack := by
  intro levels depth fuel d c tail Q E room there enough ends excused next
  obtain ⟨fuel, rfl⟩ := Nat.exists_eq_add_one_of_ne_zero (Nat.ne_of_gt (Nat.zero_lt_of_lt enough))
  have rest := there.rest
  rw [Stmt.elseChars_block] at rest
  have rest' := rest_keyword (by decide) rest
  simp [elseTail]
  generalize same : c.pass _ = c' at rest'
  have there' : AtLine d (['e', 'l', 's', 'e'] ++
      (Stmt.braced depth (Stmt.blockChars (depth + 1) body) ++ '\n' :: tail)) c' := by
    refine ⟨?_, ?_, rest'⟩
    · rw [← same]
      exact there.brackets
    · rw [← same]
      exact there.depth
  have word : c'.word = ['e', 'l', 's', 'e'] := by
    rw [Stmt.braced_append] at rest'
    exact word_keyword (by decide) rest'
  have behind := (there'.pass (n := "else".length) rfl).at
  have brace : Follows 0 0 (Stmt.braced depth (Stmt.blockChars (depth + 1) body) ++
      '\n' :: tail) := by
    rw [Stmt.braced_append]
    exact .brace _
  obtain ⟨again, rest''⟩ := behind.skipped brace.solid
  have noIf : (c'.pass "else".length).skipped.word = [] := by
    rw [Stmt.braced_append] at rest''
    exact word_sign rest'' (by decide)
  simp [word, noIf]
  exact reads levels depth room again excused next

theorem readsBack_elif {cond : Expr} {body : List Stmt} {otherwise : Else}
    (legible : cond.IsLegible Literal.IsReadable) (reads : BodyReadsBack body)
    (more : otherwise.ReadsBack) : (elif cond body otherwise).ReadsBack := by
  intro levels depth fuel d c tail Q E room there enough ends excused next
  obtain ⟨fuel, rfl⟩ := Nat.exists_eq_add_one_of_ne_zero (Nat.ne_of_gt (Nat.zero_lt_of_lt enough))
  have rest := there.rest
  rw [Stmt.elseChars_elif] at rest
  have rest' := rest_keyword (by decide) rest
  simp [elseTail]
  generalize same : c.pass _ = c' at rest'
  have there' : AtLine d (['e', 'l', 'i', 'f'] ++ ' ' :: (cond.chars ++
      (Stmt.braced depth (Stmt.blockChars (depth + 1) body) ++
        (Stmt.elseChars depth otherwise ++ '\n' :: tail)))) c' := by
    refine ⟨?_, ?_, rest'⟩
    · rw [← same]
      exact there.brackets
    · rw [← same]
      exact there.depth
  have word : c'.word = ['e', 'l', 'i', 'f'] := word_keyword (by decide) rest'
  simp [word]
  rw [climb, chains] at excused
  rw [climb] at next
  refine headed_back legible reads room (there'.pass (n := "elif".length) rfl).at
    (fun err h => excused err h.left)
    (fun err h => excused err (Excuse.right (Excuse.left h))) ?_
  intro fits fits' c'' there''
  refine more levels depth room there'' ?_ ends
    (fun err h => excused err (Excuse.right (Excuse.right h))) ?_
  · rw [there''.rest]
    rw [rest] at enough
    simp at enough ⊢
    omega
  · intro fits''
    exact next (by simp at fits fits' ⊢; omega)

end ReadsBack

end Else

namespace Stmt

open Script

/-- The reader of statements takes the text of a statement for the statement, or stops in front of
the second of two comparisons. -/
def ReadsBack (s : Stmt) : Prop :=
  ∀ (levels depth : Nat) {d : Nat} {c : Cursor} {tail : List Char} {Q : Stmt → Cursor → Prop}
    {E : Error → Prop}, Enough (levels + 1) d → AtLine d (s.chars depth ++ '\n' :: tail) c →
    EndsBranches ('\n' :: tail) → (∀ err, Excuse s.climb s.chains d err → E err) →
    (d + s.climb.peak ≤ maxDepth → ∀ c', AtLine d ('\n' :: tail) c' → Q s.asCalls c') →
    (s.chains = true → ∀ s' c', Stuck 0 c' → Q s' c') →
    Ends (statement (Script.braced (statementsWithin true levels))) c Q E

section ReadsBack

variable {d : Nat} {c : Cursor} {tail : List Char} {e : Expr} {body : List Stmt} {E : Error → Prop}

/-- Nothing is skipped in front of a statement. -/
theorem skipped_start {text : List Char} (h : Starts text) (there : AtLine d text c) :
    c.skipped = c := by
  apply skipped_solid
  rw [there.brackets, there.rest]
  refine h.solid ?_
  intro x space
  simp [isSeparator, isSpaceOrBreak, show isSpace x from space]

/-- An expression at the end of a line. -/
theorem expression_line {Q : Expr → Cursor → Prop} (legible : e.IsLegible Literal.IsReadable)
    (within : d ≤ maxDepth) (there : At 0 d (' ' :: e.chars ++ '\n' :: tail) c)
    (excused : ∀ err, Excuse e.climb.inside e.chains d err → E err)
    (next : d + e.climb.inside.peak ≤ maxDepth → ∀ c', AtLine d ('\n' :: tail) c' → Q e c')
    (stuck : e.chains = true → ∀ e' c', Stuck 0 c' → Q e' c') : Ends expression c Q E := by
  refine expression_back legible within there (.line tail rfl) excused ?_ stuck
  intro fits c' there'
  exact next fits c' ⟨there'.brackets, there'.depth, there'.rest_eq (by decide)⟩

/-- An expression as a statement. -/
theorem statement_expr {Q : Stmt → Cursor → Prop} {body : Parse (List Stmt)}
    (legible : e.IsLegible Literal.IsReadable) (within : d ≤ maxDepth)
    (there : AtLine d (e.chars ++ '\n' :: tail) c)
    (excused : ∀ err, Excuse e.climb.inside e.chains d err → E err)
    (next : d + e.climb.inside.peak ≤ maxDepth → ∀ c', AtLine d ('\n' :: tail) c' →
      Q (.expr e) c')
    (stuck : e.chains = true → ∀ s c', Stuck 0 c' → Q s c') : Ends (statement body) c Q E := by
  have opening : Opening 0 e.strength (e.chars ++ '\n' :: tail) :=
    Expr.opening legible (.line tail rfl)
  have skipped : c.skipped = c := skipped_start opening.starts there
  have words : c.word ≠ ['l', 'e', 't'] ∧ c.word ≠ ['i', 'f'] ∧ c.word ≠ ['f', 'o', 'r'] ∧
      c.word ≠ ['w', 'h', 'i', 'l', 'e'] ∧ c.word ≠ ['b', 'r', 'e', 'a', 'k'] ∧
      c.word ≠ ['c', 'o', 'n', 't', 'i', 'n', 'u', 'e'] := by
    rcases opening.word there.rest with word | ⟨-, word⟩ | word | word | word | ⟨free, -⟩
    · simp [word]
    · simp [word]
    · simp [word]
    · simp [word]
    · simp [word]
    · have other (keyword : List Char) (h : String.ofList keyword ∈ keywords) :
          c.word ≠ keyword := by
        rintro rfl
        exact free h
      exact ⟨other _ (by decide), other _ (by decide), other _ (by decide), other _ (by decide),
        other _ (by decide), other _ (by decide)⟩
  simp [statement, skipped, words]
  have opened : Opening c.brackets e.strength c.rest := by
    rw [there.brackets, there.rest]
    exact opening
  refine assignment?_none opened ?_
  simp
  have blank : At 0 d (' ' :: e.chars ++ '\n' :: tail) c :=
    ⟨there.brackets, there.depth, .inr (by rw [there.rest]; rfl)⟩
  exact expression_line legible within blank excused next fun chains e' c' => stuck chains _ c'

theorem readsBack_expr (legible : e.IsLegible Literal.IsReadable) : (expr e).ReadsBack := by
  intro levels depth d c tail Q E room there _ excused next stuck
  exact statement_expr legible room.within there excused next stuck

theorem readsBack_emitText (text : String) : (emitText text).ReadsBack := by
  intro levels depth d c tail Q E room there _ excused next stuck
  rw [chars_emitText] at there
  exact statement_expr (legible_emitText text) room.within there excused next stuck

theorem readsBack_emit (legible : e.IsLegible Literal.IsReadable) : (emit e).ReadsBack := by
  intro levels depth d c tail Q E room there _ excused next stuck
  rw [chars_emit] at there
  have chains : (Expr.call "emit_value" [e]).chains = e.chains := by
    simp [Expr.chains, chainsAny]
  refine statement_expr (legible_emit legible) room.within there ?_ next ?_
  · rw [chains]
    exact excused
  · rw [chains]
    exact stuck

theorem readsBack_declare {name : String}
    (legible : (declare name e).IsLegible Literal.IsReadable) : (declare name e).ReadsBack := by
  intro levels depth d c tail Q E room there _ excused next stuck
  have skipped := skipped_start (starts legible depth tail) there
  rw [isLegible_declare] at legible
  rw [chars_declare] at there
  have word : c.word = ['l', 'e', 't'] := word_keyword (by decide) there.rest
  have behind : At 0 d (' ' :: name.toList ++ ' ' :: '=' :: ' ' :: (e.chars ++ '\n' :: tail))
      (c.pass "let".length) := (there.pass (n := "let".length) rfl).at
  simp [statement, skipped, word, -Ends.identifier_iff]
  refine identifier_back legible.1 (by rfl) behind ?_
  intro c' there'
  obtain ⟨again, rest'⟩ := there'.skipped (solid_cons (by decide) (by decide))
  have sign : c'.skipped.startsWith "=" = true := by
    rw [Cursor.startsWith, rest']
    rfl
  have value : At 0 d (' ' :: e.chars ++ '\n' :: tail) (c'.skipped.pass "=".length) := by
    refine ⟨again.brackets, again.depth, .inl ?_⟩
    rw [Cursor.rest_pass, rest']
    rfl
  simp [sign]
  exact expression_line legible.2 room.within value excused next fun chains e' c' =>
    stuck chains _ c'

theorem readsBack_assign {name : String} {op : AssignOp}
    (legible : (assign name op e).IsLegible Literal.IsReadable) :
    (assign name op e).ReadsBack := by
  intro levels depth d c tail Q E room there _ excused next stuck
  have skipped := skipped_start (starts legible depth tail) there
  rw [isLegible_assign] at legible
  rw [chars_assign] at there
  have word : c.word = name.toList := word_name legible.1 (by rfl) there.rest
  have other (keyword : List Char) (isKeyword : String.ofList keyword ∈ keywords) :
      name.toList ≠ keyword := by
    rintro rfl
    rw [String.ofList_toList] at isKeyword
    exact legible.1.free isKeyword
  simp [statement, skipped, word, other ['l', 'e', 't'] (by decide), other ['i', 'f'] (by decide),
    other ['f', 'o', 'r'] (by decide), other ['w', 'h', 'i', 'l', 'e'] (by decide),
    other ['b', 'r', 'e', 'a', 'k'] (by decide),
    other ['c', 'o', 'n', 't', 'i', 'n', 'u', 'e'] (by decide)]
  refine assignment?_some legible.1 there.brackets there.depth there.rest ?_
  intro c' there'
  simp
  exact expression_line legible.2 room.within there' excused next fun chains e' c' =>
    stuck chains _ c'

theorem readsBack_breakLoop : breakLoop.ReadsBack := by
  intro levels depth d c tail Q E room there _ _ next _
  have skipped := skipped_start (starts isLegible_breakLoop depth tail) there
  have line : AtLine d (['b', 'r', 'e', 'a', 'k'] ++ '\n' :: tail) c := there
  have word : c.word = ['b', 'r', 'e', 'a', 'k'] :=
    word_keyword_append (by decide) (by rfl) line.rest
  simp [statement, skipped, word]
  exact next room.within _ (line.pass rfl)

theorem readsBack_continueLoop : continueLoop.ReadsBack := by
  intro levels depth d c tail Q E room there _ _ next _
  have skipped := skipped_start (starts isLegible_continueLoop depth tail) there
  have line : AtLine d (['c', 'o', 'n', 't', 'i', 'n', 'u', 'e'] ++ '\n' :: tail) c := there
  have word : c.word = ['c', 'o', 'n', 't', 'i', 'n', 'u', 'e'] :=
    word_keyword_append (by decide) (by rfl) line.rest
  simp [statement, skipped, word]
  exact next room.within _ (line.pass rfl)

theorem readsBack_whileLoop (legible : (whileLoop e body).IsLegible Literal.IsReadable)
    (reads : BodyReadsBack body) : (whileLoop e body).ReadsBack := by
  intro levels depth d c tail Q E room there _ excused next _
  have skipped := skipped_start (starts legible depth tail) there
  rw [isLegible_whileLoop] at legible
  rw [chars_whileLoop] at there
  have word : c.word = ['w', 'h', 'i', 'l', 'e'] := word_keyword (by decide) there.rest
  simp [statement, skipped, word]
  rw [climb, chains] at excused
  rw [climb] at next
  refine headed_back legible.1 reads room (there.pass (n := "while".length) rfl).at
    (fun err h => excused err h.left) (fun err h => excused err (Excuse.right h)) ?_
  intro fits fits'
  exact next (by simp at fits fits' ⊢; omega)

theorem readsBack_forLoop {var : String}
    (legible : (forLoop var e body).IsLegible Literal.IsReadable) (reads : BodyReadsBack body) :
    (forLoop var e body).ReadsBack := by
  intro levels depth d c tail Q E room there _ excused next _
  have skipped := skipped_start (starts legible depth tail) there
  rw [isLegible_forLoop] at legible
  rw [chars_forLoop] at there
  have word : c.word = ['f', 'o', 'r'] := word_keyword (by decide) there.rest
  have behind : At 0 d (' ' :: var.toList ++ ' ' :: (['i', 'n'] ++ ' ' :: (e.chars ++
      (braced depth (blockChars (depth + 1) body) ++ '\n' :: tail)))) (c.pass "for".length) :=
    (there.pass (n := "for".length) rfl).at
  simp [statement, skipped, word, forHead, -Ends.identifier_iff]
  refine identifier_back legible.1 (by rfl) behind ?_
  intro c' there'
  obtain ⟨again, rest'⟩ := there'.skipped (solid_word (by decide))
  have isIn : c'.skipped.word = ['i', 'n'] := word_keyword (by decide) rest'
  have head : At 0 d (' ' :: e.chars ++
      (braced depth (blockChars (depth + 1) body) ++ '\n' :: tail))
      (c'.skipped.pass "in".length) := by
    refine ⟨again.brackets, again.depth, .inl ?_⟩
    rw [Cursor.rest_pass, rest']
    rfl
  simp [isIn]
  rw [climb, chains] at excused
  rw [climb] at next
  refine headed_back legible.2.1 reads room head (fun err h => excused err h.left)
    (fun err h => excused err (Excuse.right h)) ?_
  intro fits fits'
  exact next (by simp at fits fits' ⊢; omega)

theorem readsBack_branch {otherwise : Else}
    (legible : (branch e body otherwise).IsLegible Literal.IsReadable)
    (reads : BodyReadsBack body) (more : otherwise.ReadsBack) :
    (branch e body otherwise).ReadsBack := by
  intro levels depth d c tail Q E room there ends excused next _
  have skipped := skipped_start (starts legible depth tail) there
  rw [isLegible_branch] at legible
  rw [chars_branch] at there
  have word : c.word = ['i', 'f'] := word_keyword (by decide) there.rest
  simp [statement, skipped, word]
  rw [climb, chains] at excused
  rw [climb] at next
  refine headed_back legible.1 reads room (there.pass (n := "if".length) rfl).at
    (fun err h => excused err h.left) (fun err h => excused err (Excuse.right (Excuse.left h))) ?_
  intro fits fits' c' there'
  refine more levels depth room there' (Nat.lt_succ_self _) ends
    (fun err h => excused err (Excuse.right (Excuse.right h))) ?_
  intro fits''
  exact next (by simp at fits fits' ⊢; omega)

end ReadsBack

end Stmt

namespace Script

section Lines

variable {levels d : Nat} {inBody : Bool} {ss : List Stmt} {closing : List Char} {E : Error → Prop}

/-- A statement ends at a line break. -/
theorem statementEnds_line {c : Cursor} {tail : List Char} {Q : Bool → Cursor → Prop}
    (there : AtLine d ('\n' :: tail) c) (next : Q true c) :
    Ends (statementEnds inBody) c.skipped Q E := by
  have skipped : c.skipped = c := by
    apply skipped_solid
    rw [there.brackets, there.rest]
    simp [Solid, gapLength, isSpace]
  rw [skipped]
  simpa [statementEnds, there.rest, Cursor.startsWith] using next

/-- No statement ends at an operator. -/
theorem Stuck.statementEnds {c : Cursor} {Q : Bool → Cursor → Prop} (h : Stuck 0 c)
    (next : Q false c.skipped) : Ends (statementEnds inBody) c.skipped Q E := by
  have notEnd : c.skipped.rest.isEmpty = false := by simp [h.rest_ne_nil]
  have noBreak := h.not_startsWith (by decide : strengthsOf "\n" = [0]) (by decide)
  have noSeparator := h.not_startsWith (by decide : strengthsOf ";" = []) (by decide)
  have noBrace := h.not_startsWith (by decide : strengthsOf "\x7d" = []) (by decide)
  simpa [Script.statementEnds, notEnd, noBreak, noSeparator, noBrace] using next

/-- Statements one to a line are read back, up to what closes them. -/
theorem statementList_back (depth : Nat) (closes : Closes inBody closing) {endRow : List Char}
    (blankEnd : IsBlank endRow) : ∀ {ss : List Stmt}, BlockIsLegible Literal.IsReadable ss →
    (∀ s ∈ ss, s.ReadsBack) → ∀ (fuel : Nat) {c : Cursor} {row : List Char}
    {Q : List Stmt → Cursor → Prop}, Enough (levels + 1) d → IsBlank row →
    AtLine d (row ++ (Stmt.blockChars depth ss ++ (endRow ++ closing))) c →
    c.rest.length < fuel → (∀ err, Excuse (blockClimb ss) (blockChains ss) d err → E err) →
    (d + (blockClimb ss).peak ≤ maxDepth → ∀ c', AtLine d closing c' → Q (blockAsCalls ss) c') →
    Ends (statementList (braced (statementsWithin true levels)) inBody fuel) c Q E
  | _, _, _, 0, _, _, _, _, _, _, enough, _, _ => absurd enough (Nat.not_lt_zero _)
  | [], _, _, fuel + 1, c, row, Q, room, isBlank, there, _, _, next => by
    have skipped : (c.pass (gapLength isSeparator false c.rest)).rest = closing := by
      refine rest_pass_blank rfl rfl (isBlank.append blankEnd) (closes.solid fun _ h => h) ?_
      rw [there.rest, List.append_assoc]
      rfl
    simp [statementList, -Cursor.rest_pass]
    generalize same : c.pass _ = c' at skipped
    have line : AtLine d closing c' := by
      rw [← same] at skipped ⊢
      exact ⟨there.brackets, there.depth, skipped⟩
    have closed : Q [] c' := next (by simpa [blockClimb] using room.within) c' line
    cases closes with
    | program => simp [skipped, closed]
    | body cs => simp [skipped, Cursor.startsWith, closed]
  | s :: ss, legible, reads, fuel + 1, c, row, Q, room, isBlank, there, enough, excused, next => by
    rw [blockIsLegible_cons] at legible
    rw [Stmt.blockChars_cons] at there
    have starts := Stmt.starts legible.1 depth (Stmt.blockChars depth ss ++ (endRow ++ closing))
    have skipped := rest_pass_blank rfl rfl (isBlank.append (isBlank_indent depth))
      (starts.solid fun _ h => h) (by rw [there.rest, List.append_assoc])
    simp only [statementList, Ends.bind_iff, Ends.skip_iff, Ends.atEnd_iff]
    generalize same : c.pass _ = c' at skipped
    have line : AtLine d (s.chars depth ++ '\n' ::
        (Stmt.blockChars depth ss ++ (endRow ++ closing))) c' := by
      rw [← same] at skipped ⊢
      exact ⟨there.brackets, there.depth, skipped⟩
    obtain ⟨x, xs, text, solid, -, notBrace⟩ := starts.head
    have notEnd : c'.rest.isEmpty = false := by rw [skipped, text]; rfl
    have notClosed : c'.startsWith "\x7d" = false := by
      simp [Cursor.startsWith, skipped, text, List.isPrefixOf, Ne.symm notBrace]
    have nonempty : 0 < (s.chars depth).length := by
      refine List.length_pos_of_ne_nil fun empty => ?_
      rw [empty] at text
      rw [← (List.cons.inj text).1] at solid
      exact absurd solid (by decide)
    have ends := endsBranches_lines legible.2 depth blankEnd closes
    rw [blockClimb, blockChains] at excused
    rw [blockClimb] at next
    have own : Ends (statement (braced (statementsWithin true levels))) c' (fun s' last =>
        Ends (statementEnds inBody) last.skipped (fun ended last' =>
          (ended = true → Ends (statementList (braced (statementsWithin true levels)) inBody fuel)
            last' (fun ss last'' => Q (s' :: ss) last'') E) ∧
          (ended = false → E (last'.error (.expectedStatementEnd last'.found)))) E) E := by
      refine reads s (by simp) levels depth room line ends (fun err h => excused err h.left) ?_ ?_
      · intro fits last there'
        refine statementEnds_line there' ⟨fun _ => ?_, fun h => by cases h⟩
        refine statementList_back depth closes blankEnd legible.2
          (fun s h => reads s (List.mem_cons_of_mem _ h)) fuel room isBlank_break there' ?_
          (fun err h => excused err (Excuse.right (by simpa using h))) ?_
        · rw [there'.rest]
          rw [there.rest] at enough
          simp at enough ⊢
          omega
        · intro fits'
          exact next (by simp; omega)
      · intro chains s' last stuck
        refine stuck.statementEnds ⟨fun h => absurd h (by decide), fun _ => ?_⟩
        exact excused _ (.inl (by simp [chains]))
    simp [notEnd, notClosed]
    exact ⟨fun _ => own, fun _ => own⟩

/-- A body between braces is read back. -/
theorem body_back (legible : BlockIsLegible Literal.IsReadable ss)
    (reads : ∀ s ∈ ss, s.ReadsBack) : BodyReadsBack ss := by
  intro levels depth d c tail Q E room there excused next
  rw [Stmt.braced_append] at there
  obtain ⟨at', rest⟩ := there.skipped (solid_cons (by decide) (by decide))
  have opens : c.skipped.startsWith "\x7b" = true := by
    rw [Cursor.startsWith, rest]
    rfl
  have atDepth : c.depth = d := there.depth
  simp [braced, opens, atDepth]
  refine ⟨fun full => excused _ (.full full (by simp) rfl), fun more => ?_⟩
  have deeper := room.next more
  obtain ⟨levels, rfl⟩ := Nat.exists_eq_add_one_of_ne_zero deeper.ne_zero
  simp [statementsWithin]
  have line : AtLine (d + 1) (['\n'] ++ (Stmt.blockChars (depth + 1) ss ++
      (Stmt.indent depth ++ '\x7d' :: tail)))
      ⟨c.skipped.rest.drop "\x7b".length, (c.skipped.pass "\x7b".length).place, 0, d + 1⟩ := by
    refine ⟨rfl, rfl, ?_⟩
    rw [rest]
    rfl
  refine statementList_back (depth + 1) (.body tail) (isBlank_indent depth) legible reads _ deeper
    isBlank_break line (by simp) (fun err h => excused err h.inside) ?_
  intro fits c' there'
  have closed : Cursor.startsWith ⟨c'.rest, c'.place, c.brackets, d⟩ "\x7d" = true := by
    rw [Cursor.startsWith, there'.rest]
    rfl
  simp only [closed, true_implies, Bool.true_eq_false, false_implies, and_true]
  refine next (by simp; omega) _ ⟨at'.brackets, rfl, ?_⟩
  rw [Cursor.rest_pass, there'.rest]
  rfl

end Lines

end Script

mutual

/-- Every written statement is read back. -/
theorem Stmt.readsBack : ∀ {s : Stmt}, s.IsLegible Literal.IsReadable → s.ReadsBack
  | .emitText text, _ => Stmt.readsBack_emitText text
  | .emit e, legible => Stmt.readsBack_emit legible
  | .declare name value, legible => Stmt.readsBack_declare legible
  | .assign name op value, legible => Stmt.readsBack_assign legible
  | .expr e, legible => Stmt.readsBack_expr legible
  | .branch cond body otherwise, legible => by
    have parts := legible
    rw [Stmt.isLegible_branch] at parts
    exact Stmt.readsBack_branch legible
      (Script.body_back parts.2.1 (blockReadsBack parts.2.1)) (Else.readsBack parts.2.2)
  | .forLoop var iterable body, legible => by
    have parts := legible
    rw [Stmt.isLegible_forLoop] at parts
    exact Stmt.readsBack_forLoop legible (Script.body_back parts.2.2 (blockReadsBack parts.2.2))
  | .whileLoop cond body, legible => by
    have parts := legible
    rw [Stmt.isLegible_whileLoop] at parts
    exact Stmt.readsBack_whileLoop legible (Script.body_back parts.2 (blockReadsBack parts.2))
  | .breakLoop, _ => Stmt.readsBack_breakLoop
  | .continueLoop, _ => Stmt.readsBack_continueLoop

theorem Else.readsBack : ∀ {o : Else}, o.IsLegible Literal.IsReadable → o.ReadsBack
  | .nothing, _ => Else.readsBack_nothing
  | .block body, legible => by
    rw [Else.isLegible_block] at legible
    exact Else.readsBack_block (Script.body_back legible (blockReadsBack legible))
  | .elif cond body otherwise, legible => by
    rw [Else.isLegible_elif] at legible
    exact Else.readsBack_elif legible.1
      (Script.body_back legible.2.1 (blockReadsBack legible.2.1)) (Else.readsBack legible.2.2)

theorem blockReadsBack : ∀ {ss : List Stmt}, BlockIsLegible Literal.IsReadable ss →
    ∀ s ∈ ss, s.ReadsBack
  | [], _ => by simp
  | s :: ss, legible => by
    rw [blockIsLegible_cons] at legible
    exact List.forall_mem_cons.2 ⟨Stmt.readsBack legible.1, blockReadsBack legible.2⟩

end

namespace Program

variable {p q : Program}

/-- The text of a legible program is read as the program with output written as calls, and fits into
the levels then; or reading it fails with something that the program excuses. -/
theorem readStatements_text (legible : BlockIsLegible Literal.IsReadable p) :
    (∃ q, Script.readStatements p.text.toList = .ok q ∧ q = p.asCalls ∧
      (blockClimb p).peak ≤ Script.maxDepth) ∨
    ∃ err, Script.readStatements p.text.toList = .error err ∧
      Script.Excuse (blockClimb p) (blockChains p) 0 err := by
  have text : p.text.toList = [] ++ (Stmt.blockChars 0 p ++ ([] ++ [])) := by simp [text]
  have start : Script.AtLine 0 ([] ++ (Stmt.blockChars 0 p ++ ([] ++ [])))
      (.start p.text.toList) := ⟨rfl, rfl, text⟩
  refine Script.Ends.of_run ?_
  simp [Script.wholeStatements, Script.statementsWithin]
  refine Script.statementList_back 0 .program Script.isBlank_nil legible (blockReadsBack legible) _
    (Script.enough_start (Nat.zero_le _)) Script.isBlank_nil start (Nat.lt_succ_self _)
    (fun _ h => h) ?_
  intro fits c' there
  simp [there.rest, asCalls]
  simpa using fits

/-- The text of a legible program is read as the program with output written as calls, if it is read
at all. -/
theorem asCalls_of_readStatements (legible : BlockIsLegible Literal.IsReadable p)
    (read : Script.readStatements p.text.toList = .ok q) : q = p.asCalls := by
  rcases readStatements_text legible with ⟨q', read', same, -⟩ | ⟨err, failed, -⟩
  · rw [read] at read'
    cases read'
    exact same
  · rw [read] at failed
    cases failed

end Program

end Stencil
