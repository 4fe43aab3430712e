import Stencil.Proofs.Script.Progress

/-!
# The loops of the readers end

A loop is a round that is written over the rounds that come after it. A round over a text goes on
only from a cursor that has moved on (`Forward`), so after as many rounds as there are characters
nothing is left to be done: what would be done next makes no difference (`Ending`). The loops that
put operators on an expression go one level deeper in every round (`Deepens`), and there are no more
levels than `maxDepth`.
-/

namespace Stencil.Script

variable {α β : Type} {c : Cursor}

/-- Two readers run alike if what they do next runs alike. -/
theorem run_bind_congr {p q : Parse α} {f g : α → Parse β} (same : p.run.run c = q.run.run c)
    (next : Yields p c fun a c' => (f a).run.run c' = (g a).run.run c') :
    (p >>= f).run.run c = (q >>= g).run.run c := by
  rw [run_bind, run_bind, ← same]
  cases ran : p.run.run c with
  | mk result c' =>
      cases result with
      | ok a => exact next a c' ran
      | error e => rfl

/-- What a loop does in some rounds, if each of them is written over the next ones. -/
theorem eq_iterate {σ : Type} {loop : Nat → σ} {round : σ → σ}
    (next : ∀ n, loop (n + 1) = round (loop n)) (n : Nat) : loop n = round^[n] (loop 0) := by
  induction n with
  | zero => rfl
  | succ n ih => rw [Function.iterate_succ_apply', ← ih, next]

/-! ### Loops over a text -/

/-- A round goes on only from where the cursor has moved on. -/
def Forward (round : Parse α → Parse α) : Prop :=
  ∀ again again' c, (∀ c', Ahead c c' → again.run.run c' = again'.run.run c') →
    (round again).run.run c = (round again').run.run c

/-- A loop is made of rounds, and after as many of them as there are characters, and one more,
nothing that would be done next is done any more. -/
structure Ending (loop : Nat → Parse α) (round : Parse α → Parse α) : Prop where
  rounds : ∀ n, loop n = round^[n] (loop 0)
  stops : ∀ next next' c, (round^[c.rest.length + 1] next).run.run c =
    (round^[c.rest.length + 1] next').run.run c

theorem Forward.run_iterate {round : Parse α → Parse α} (h : Forward round)
    (next next' : Parse α) {rounds : Nat} {c : Cursor} (enough : c.rest.length < rounds) :
    (round^[rounds] next).run.run c = (round^[rounds] next').run.run c := by
  induction rounds generalizing c with
  | zero => exact absurd enough (Nat.not_lt_zero _)
  | succ rounds ih =>
      rw [Function.iterate_succ_apply', Function.iterate_succ_apply']
      exact h _ _ c fun c' ahead => ih (ahead.shorter.trans_le (Nat.le_of_lt_succ enough))

theorem Forward.ending {loop : Nat → Parse α} {round : Parse α → Parse α} (h : Forward round)
    (next : ∀ n, loop (n + 1) = round (loop n)) : Ending loop round where
  rounds := eq_iterate next
  stops next next' _ := h.run_iterate next next' (Nat.lt_succ_self _)

/-- A round of the reader of strings. -/
def stringRound (quote : Char) (atEnd : Error) (again : Parse (List Char)) :
    Parse (List Char) := do
  match ← nextChar? with
  | none => throw atEnd
  | some c =>
    if c == quote then return []
    let c ← if c == '\\' then escaped atEnd else pure c
    return c :: (← again)

theorem stringRound_forward (quote : Char) (atEnd : Error) :
    Forward (stringRound quote atEnd) := by
  intro again again' c same
  unfold stringRound
  refine run_bind_congr rfl (Yields.nextChar?_iff.2 ?_)
  cases rest : c.rest with
  | nil => rfl
  | cons x cs =>
      have ahead : Ahead c (c.pass 1) := ahead_pass one_ne_zero (by simp [rest])
      simp only [List.head?_cons]
      split
      · rfl
      have keeps : KeepsOn (escaped atEnd) := fun c => escaped_keeps (lasting_ahead c) trivial
      split
      · refine run_bind_congr rfl ((keeps.yields ahead).mono fun _ c' ahead => ?_)
        exact run_bind_congr (same c' ahead) fun _ _ _ => rfl
      · refine run_bind_congr rfl (Yields.pure_iff.2 ?_)
        exact run_bind_congr (same _ ahead) fun _ _ _ => rfl

def itemsRound (whole : Parse Expr) (close : String) (again : Parse (List Expr)) :
    Parse (List Expr) := do
  skipSpace
  if ← peek close then return []
  let e ← whole
  skipSpace
  if ← accept "," then return e :: (← again)
  return [e]

theorem itemsRound_forward {whole : Parse Expr} (h : Advances whole) (close : String) :
    Forward (itemsRound whole close) := by
  intro again again' c same
  unfold itemsRound
  refine run_bind_congr rfl (Yields.skipSpace_iff.2 ?_)
  refine run_bind_congr rfl (Yields.peek_iff.2 ?_)
  split
  · rfl
  refine run_bind_congr rfl ((h _).mono fun e c' ahead => ?_)
  refine run_bind_congr rfl (Yields.skipSpace_iff.2 ?_)
  refine run_bind_congr rfl (Yields.accept_iff.2 ⟨fun _ => ?_, fun _ => rfl⟩)
  have there := (Moved.refl c).skipped.ahead (ahead.then (Moved.refl c').skipped)
  exact run_bind_congr (same _ (there.then ((Moved.refl _).pass _))) fun _ _ _ => rfl

def statementsRound (body : Parse (List Stmt)) (inBody : Bool) (again : Parse (List Stmt)) :
    Parse (List Stmt) := do
  skip isSeparator
  if ← atEnd then
    if inBody then fail (.expectedToken "\x7d" .endOfInput)
    return []
  if inBody then
    if ← peek "\x7d" then return []
  let s ← statement body
  skipSpace
  unless ← statementEnds inBody do failFound .expectedStatementEnd
  return s :: (← again)

theorem statementsRound_forward {body : Parse (List Stmt)} (h : KeepsOn body) (inBody : Bool) :
    Forward (statementsRound body inBody) := by
  intro again again' c same
  have moved (n : Nat) : Moved c (c.pass n) := (Moved.refl c).pass n
  have next (c' : Cursor) (moved : Moved c c') : (do
      let s ← statement body
      skipSpace
      unless ← statementEnds inBody do failFound .expectedStatementEnd
      return s :: (← again)).run.run c' = (do
      let s ← statement body
      skipSpace
      unless ← statementEnds inBody do failFound .expectedStatementEnd
      return s :: (← again')).run.run c' := by
    refine run_bind_congr rfl ((statement_advances h c').mono fun s c₁ ahead => ?_)
    refine run_bind_congr rfl (Yields.skipSpace_iff.2 ?_)
    have there : Ahead c c₁.skipped := moved.ahead (ahead.then (Moved.refl c₁).skipped)
    have ends : Yields (statementEnds inBody) c₁.skipped fun _ c₂ => c₂ = c₁.skipped := by
      simp [statementEnds]
    refine run_bind_congr rfl (ends.mono ?_)
    rintro found _ rfl
    cases found with
    | true => exact run_bind_congr (same _ there) fun _ _ _ => rfl
    | false => exact run_bind_congr rfl (Yields.failFound_iff.2 trivial)
  unfold statementsRound
  refine run_bind_congr rfl (Yields.skip_iff.2 (run_bind_congr rfl (Yields.atEnd_iff.2 ?_)))
  split
  · rfl
  split
  · refine run_bind_congr rfl (Yields.peek_iff.2 ?_)
    split
    · rfl
    · exact next _ (moved _)
  · exact next _ (moved _)

def branchRound (body : Parse (List Stmt)) (again : Parse Else) : Parse Else := do
  let start ← get
  skip isSpaceOrBreak
  if ← acceptKeyword "elif" then
    return .elif (← expression) (← body) (← again)
  if ← acceptKeyword "else" then
    skipSpace
    if ← acceptKeyword "if" then
      return .elif (← expression) (← body) (← again)
    return .block (← body)
  restore start
  return .nothing

theorem branchRound_forward {body : Parse (List Stmt)} (h : KeepsOn body) :
    Forward (branchRound body) := by
  intro again again' c same
  have expression : KeepsOn expression := fun c => expression_keeps (lasting_ahead c)
  have elif (c' : Cursor) (ahead : Ahead c c') :
      (do return Else.elif (← Script.expression) (← body) (← again)).run.run c' =
        (do return Else.elif (← Script.expression) (← body) (← again')).run.run c' := by
    refine run_bind_congr rfl ((expression.yields ahead).mono fun _ c₁ ahead => ?_)
    refine run_bind_congr rfl ((h.yields ahead).mono fun _ c₂ ahead => ?_)
    exact run_bind_congr (same c₂ ahead) fun _ _ _ => rfl
  unfold branchRound
  refine run_bind_congr rfl (Yields.get_iff.2 (run_bind_congr rfl (Yields.skip_iff.2 ?_)))
  have moved : Moved c (c.pass (gapLength isSpaceOrBreak false c.rest)) := (Moved.refl c).pass _
  refine run_bind_congr rfl ((acceptKeyword_takes (by decide) _).mono fun found c₁ taken => ?_)
  cases found with
  | true => exact elif c₁ (moved.ahead (taken.1 rfl))
  | false =>
      obtain rfl := taken.2 rfl
      refine run_bind_congr rfl ((acceptKeyword_takes (by decide) _).mono fun found c₁ taken => ?_)
      cases found with
      | false => rfl
      | true =>
          have ahead := moved.ahead (taken.1 rfl)
          refine run_bind_congr rfl (Yields.skipSpace_iff.2 ?_)
          refine run_bind_congr rfl
            ((acceptKeyword_takes (by decide) _).mono fun found c₂ taken => ?_)
          cases found with
          | false => rfl
          | true => exact elif c₂ (ahead.then (((Moved.refl _).skipped).trans (taken.1 rfl).moved))

/-! ### Loops over operators -/

/-- A round of a loop that builds on `a`. -/
def extendRound (step : α → Parse (Option α)) (again : α → Parse α) (a : α) : Parse α := do
  match ← step a with
  | some b => again b
  | none => return a

/-- What builds on something is made of rounds, and after as many of them as there are levels, and
one more, nothing that would be done next is done any more. -/
structure Ceasing (step : α → Parse (Option α)) : Prop where
  rounds : ∀ n, extend step n = (extendRound step)^[n] (extend step 0)
  stops : ∀ next next' a c, ((extendRound step)^[maxDepth + 1] next a).run.run c =
    ((extendRound step)^[maxDepth + 1] next' a).run.run c

/-- A reader that goes deeper where it has something to add. -/
def Deepens (p : Parse (Option α)) : Prop :=
  ∀ c, Yields p c fun result c' => result.isSome → c.depth < maxDepth ∧ c.depth < c'.depth

theorem extendRound_run {step : α → Parse (Option α)} (h : ∀ a, Deepens (step a))
    (next next' : α → Parse α) {rounds : Nat} {a : α} {c : Cursor}
    (enough : maxDepth - c.depth < rounds) :
    ((extendRound step)^[rounds] next a).run.run c =
      ((extendRound step)^[rounds] next' a).run.run c := by
  induction rounds generalizing a c with
  | zero => exact absurd enough (Nat.not_lt_zero _)
  | succ rounds ih =>
      rw [Function.iterate_succ_apply', Function.iterate_succ_apply']
      refine run_bind_congr rfl ((h a c).mono fun result c' deeper => ?_)
      cases result with
      | none => rfl
      | some b =>
          have ⟨room, deeper⟩ := deeper rfl
          exact ih (by omega)

theorem ceasing_of_deepens {step : α → Parse (Option α)} (h : ∀ a, Deepens (step a)) :
    Ceasing step where
  rounds := eq_iterate fun _ => rfl
  stops next next' _ _ := extendRound_run h next next' (Nat.lt_succ_of_le (Nat.sub_le _ _))

namespace Deepens

variable {p q : Parse (Option α)}

theorem none : Deepens (Pure.pure Option.none : Parse (Option α)) := fun c => by simp

theorem after {x : Parse β} {f : β → Parse (Option α)}
    (level : ∀ c, Yields x c fun _ c' => c'.depth = c.depth) (next : ∀ b, Deepens (f b)) :
    Deepens (x >>= f) := by
  intro c
  rw [Yields.bind_iff]
  refine (level c).mono fun b c' same => ?_
  rw [← same]
  exact next b c'

theorem ite {b : Prop} [Decidable b] (h : Deepens p) (h' : Deepens q) :
    Deepens (if b then p else q) := by
  split
  · exact h
  · exact h'

theorem peeking {s : String} {f : Bool → Parse (Option α)} (next : ∀ found, Deepens (f found)) :
    Deepens (peek s >>= f) :=
  .after (fun _ => Yields.peek_iff.2 rfl) next

theorem accepting {s : String} {f : Bool → Parse (Option α)} (next : ∀ found, Deepens (f found)) :
    Deepens (accept s >>= f) :=
  .after (fun _ => Yields.accept_iff.2 ⟨fun _ => rfl, fun _ => rfl⟩) next

theorem skipping {f : Unit → Parse (Option α)} (next : Deepens (f ())) :
    Deepens (skipSpace >>= f) :=
  .after (fun _ => Yields.skipSpace_iff.2 rfl) fun _ => next

/-- Behind a step into the tree, no reader comes out of it. -/
theorem descending {f : Unit → Parse (Option α)}
    (h : KeepsTo (fun _ => True) (f ())) : Deepens (descend >>= f) := by
  intro c
  rw [Yields.bind_iff, Yields.descend_iff]
  intro room result c' ran _
  have deeper := (h { c with depth := c.depth + 1 } _ ⟨rfl, trivial⟩).depth_le
  rw [ran] at deeper
  exact ⟨room, deeper⟩

end Deepens

section Expressions

variable {whole operand : Parse Expr}

theorem rightOperand_deepens (h : KeepsTo (fun _ => True) operand)
    (combine : Expr → Expr) : Deepens (rightOperand operand combine) :=
  .descending (h.bind fun _ => .pure _)

variable (h : KeepsTo (fun _ => True) whole)

include h

theorem trailer_deepens (e : Expr) : Deepens (trailer whole e) := by
  have lasting := lasting_true
  unfold trailer
  refine .peeking fun _ => .ite (.descending ?_) (.peeking fun _ => .ite (.descending ?_)
    (.peeking fun _ => .ite (.descending ?_) .none))
  · split
    · exact (arguments_keeps lasting h).bind fun _ => .pure _
    · exact fail_keeps lasting _
  · exact (unseen_keeps lasting _).bind fun _ =>
      (enclosed_keeps lasting h (by decide)).bind fun _ => .pure _
  · exact (unseen_keeps lasting _).bind fun _ =>
      (afterPoint_keeps lasting h e).bind fun _ => .pure _

theorem moreFactors_deepens (left : Expr) : Deepens (moreFactors whole left) := by
  have operand (combine : Expr → Expr) : Deepens (rightOperand (factor whole) combine) :=
    rightOperand_deepens (negated_keeps lasting_true h _) combine
  unfold moreFactors
  exact .skipping (.accepting fun _ => .ite (operand _) (.accepting fun _ => .ite (operand _)
    (.accepting fun _ => .ite (operand _) .none)))

theorem moreTerms_deepens (left : Expr) : Deepens (moreTerms whole left) := by
  have operand (combine : Expr → Expr) : Deepens (rightOperand (product whole) combine) :=
    rightOperand_deepens (product_keeps lasting_true h) combine
  unfold moreTerms
  exact .skipping (.peeking fun _ => .peeking fun _ => .ite .none (.accepting fun _ =>
    .ite (operand _) (.accepting fun _ => .ite (operand _) .none)))

omit h in
theorem acceptEither_level (sign word : String) (c : Cursor) :
    Yields (acceptEither sign word) c fun _ c' => c'.depth = c.depth := by
  simp [acceptEither]

theorem moreConjuncts_deepens (left : Expr) : Deepens (moreConjuncts whole left) :=
  .skipping (.after (acceptEither_level _ _) fun _ => .ite
    (rightOperand_deepens (denied_keeps lasting_true h _) _) .none)

theorem moreDisjuncts_deepens (left : Expr) : Deepens (moreDisjuncts whole left) :=
  .skipping (.after (acceptEither_level _ _) fun _ => .ite
    (rightOperand_deepens (conjunction_keeps lasting_true h) _) .none)

theorem moreFilters_deepens (e : Expr) : Deepens (moreFilters whole e) := by
  have lasting := lasting_true
  unfold moreFilters
  refine .skipping (.peeking fun _ => .peeking fun _ => .ite ?_ .none)
  refine .after (fun _ => Yields.unseen_iff.2 rfl) fun _ => .descending ?_
  refine (identifier_keeps lasting).bind fun function => (peek_keeps lasting _).bind fun _ => ?_
  exact .ite ((arguments_keeps lasting h).bind fun _ => .pure _) (.pure _)

end Expressions

end Stencil.Script
