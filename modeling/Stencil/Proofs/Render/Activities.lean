import Stencil.Proofs.Render.Frame

/-!
# What is being run

A run of a program consists of activities: some code that is run from some state, with the
statements around it in which it stands. An activity starts others, whose code is a part of its own,
in states that it has come to (`Starts`). What holds of a program at its start, and of each activity
that is started if it holds of the one that starts it, holds of all that is ever run (`Reached`).

Two things are such: the code stands in the program where the activity says, and the number of loops
that the state counts is that of the loops around the code (`Reached.sound`).
-/

namespace Stencil

def Stmt.isLoop : Stmt → Bool
  | .forLoop _ _ _ => true
  | .whileLoop _ _ => true
  | _ => false

namespace State

/-- The state outside of as many bodies. -/
def leave (s : State) (bodies : Nat) : State := exit^[bodies] s

@[simp] theorem leave_zero (s : State) : s.leave 0 = s := rfl

end State

inductive Code where
  | block (ss : List Stmt)
  | stmt (s : Stmt)
  /-- What is left of the conditional `s`. -/
  | otherwise (s : Stmt) (rest : Else)
  /-- The rounds of a loop that are left, one for each item. -/
  | forRounds (var : String) (body : List Stmt) (items : List Value)
  /-- The rounds of a conditional loop that are left, at most `limit`. -/
  | whileRounds (cond : Expr) (body : List Stmt) (limit : Nat)

def Code.isRounds : Code → Bool
  | .forRounds _ _ _ => true
  | .whileRounds _ _ _ => true
  | _ => false

structure Activity where
  code : Code
  /-- The statements that the code stands in, innermost first. -/
  around : List Stmt
  state : State

section

variable (context : Context) (limit : Nat)

/-- Runs some code. The rounds of a loop, taken together, end normally. -/
def Code.run : Code → Run Flow
  | .block ss => runBlock context limit ss
  | .stmt s => s.run context limit
  | .otherwise _ rest => rest.run context limit
  | .forRounds var body items => do
    Run.forEach (fun item => Run.inScope (.ofList [(var, item)]) (runBlock context limit body))
      items
    return .normal
  | .whileRounds cond body rounds => do
    Run.whileTrue (Run.ofEval (Value.truthy <$> cond.eval context))
      (Run.inScope .empty (runBlock context limit body)) rounds
    return .normal

def Activity.outcome (a : Activity) : Option (Except Stop Flow × State) :=
  (a.code.run context limit).outcome a.state

/-- An activity starts another one in the course of its run. -/
inductive Starts : Activity → Activity → Prop
  | first {s : Stmt} {ss around : List Stmt} {u : State} :
      Starts ⟨.block (s :: ss), around, u⟩ ⟨.stmt s, around, u⟩
  | next {s : Stmt} {ss around : List Stmt} {u t : State}
      (ran : (s.run context limit).outcome u = some (.ok .normal, t)) :
      Starts ⟨.block (s :: ss), around, u⟩ ⟨.block ss, around, t⟩
  /-- A conditional is run like the rest of one. -/
  | branch {cond : Expr} {body around : List Stmt} {rest : Else} {u : State} :
      Starts ⟨.stmt (.branch cond body rest), around, u⟩
        ⟨.otherwise (.branch cond body rest) (.elif cond body rest), around, u⟩
  | elseBody {s : Stmt} {body around : List Stmt} {u : State} :
      Starts ⟨.otherwise s (.block body), around, u⟩ ⟨.block body, s :: around, u.enter .empty⟩
  | elifBody {s : Stmt} {cond : Expr} {body around : List Stmt} {rest : Else} {u t : State}
      {v : Value} (checked : (cond.eval context).outcome u = (.ok v, t)) (holds : v.truthy = true) :
      Starts ⟨.otherwise s (.elif cond body rest), around, u⟩
        ⟨.block body, s :: around, t.enter .empty⟩
  | elifRest {s : Stmt} {cond : Expr} {body around : List Stmt} {rest : Else} {u t : State}
      {v : Value} (checked : (cond.eval context).outcome u = (.ok v, t))
      (fails : v.truthy = false) :
      Starts ⟨.otherwise s (.elif cond body rest), around, u⟩ ⟨.otherwise s rest, around, t⟩
  | forLoop {var : String} {iterable : Expr} {body around : List Stmt} {u t : State} {v : Value}
      {items : List Value} (evaluated : (iterable.eval context).outcome u = (.ok v, t))
      (listed : v.items = .ok items) :
      Starts ⟨.stmt (.forLoop var iterable body), around, u⟩
        ⟨.forRounds var body items, .forLoop var iterable body :: around, t.inLoop⟩
  | forRound {var : String} {body around : List Stmt} {item : Value} {items : List Value}
      {u : State} :
      Starts ⟨.forRounds var body (item :: items), around, u⟩
        ⟨.block body, around, u.enter (.ofList [(var, item)])⟩
  | forNext {var : String} {body around : List Stmt} {item : Value} {items : List Value}
      {u t : State} {flow : Flow}
      (ran : (Run.inScope (.ofList [(var, item)]) (runBlock context limit body)).outcome u =
        some (.ok flow, t)) (goesOn : flow ≠ .leave) :
      Starts ⟨.forRounds var body (item :: items), around, u⟩ ⟨.forRounds var body items, around, t⟩
  | whileLoop {cond : Expr} {body around : List Stmt} {u : State} :
      Starts ⟨.stmt (.whileLoop cond body), around, u⟩
        ⟨.whileRounds cond body limit, .whileLoop cond body :: around, u.inLoop⟩
  | whileRound {cond : Expr} {body around : List Stmt} {rounds : Nat} {u t : State} {v : Value}
      (checked : (cond.eval context).outcome u = (.ok v, t)) (holds : v.truthy = true) :
      Starts ⟨.whileRounds cond body (rounds + 1), around, u⟩
        ⟨.block body, around, t.enter .empty⟩
  | whileNext {cond : Expr} {body around : List Stmt} {rounds : Nat} {u t t' : State} {v : Value}
      {flow : Flow} (checked : (cond.eval context).outcome u = (.ok v, t))
      (holds : v.truthy = true)
      (ran : (Run.inScope .empty (runBlock context limit body)).outcome t = some (.ok flow, t'))
      (goesOn : flow ≠ .leave) :
      Starts ⟨.whileRounds cond body (rounds + 1), around, u⟩
        ⟨.whileRounds cond body rounds, around, t'⟩

/-- One activity starts another one, or starts what does, or is the other one. -/
abbrev Leads : Activity → Activity → Prop := Relation.ReflTransGen (Starts context limit)

/-- An activity of a run of the program from the start. -/
def Reached (p : Program) (a : Activity) : Prop := Leads context limit ⟨.block p, [], .start⟩ a

end

variable {context : Context} {limit : Nat} {a b : Activity} {p : Program}

/-! ### Where code stands -/

def Else.blocks : Else → List (List Stmt)
  | .nothing => []
  | .block body => [body]
  | .elif _ body rest => body :: rest.blocks

def Stmt.blocks : Stmt → List (List Stmt)
  | .branch _ body rest => body :: rest.blocks
  | .forLoop _ _ body => [body]
  | .whileLoop _ body => [body]
  | _ => []

/-- Where statements stand in a program: one after another, up to the end of a block, in the block
of a statement, which stands in another one, and so on. -/
inductive Stands (p : Program) : List Stmt → List Stmt → Prop
  | top : Stands p [] p
  | later {around : List Stmt} {s : Stmt} {ss : List Stmt} (h : Stands p around (s :: ss)) :
      Stands p around ss
  | inside {around : List Stmt} {s : Stmt} {ss body : List Stmt} (h : Stands p around (s :: ss))
      (block : body ∈ s.blocks) : Stands p (s :: around) body

/-- The code of an activity stands in the program, in the statements that the activity says. Those
of the rounds of a loop stand in that loop. -/
def Activity.InPlace (p : Program) : Activity → Prop
  | ⟨.block ss, around, _⟩ => Stands p around ss
  | ⟨.stmt s, around, _⟩ => ∃ ss, Stands p around (s :: ss)
  | ⟨.otherwise s rest, around, _⟩ =>
    s.isLoop = false ∧ rest.blocks ⊆ s.blocks ∧ ∃ ss, Stands p around (s :: ss)
  | ⟨.forRounds var body _, around, _⟩ => ∃ iterable outer ss,
    around = .forLoop var iterable body :: outer ∧
      Stands p outer (.forLoop var iterable body :: ss)
  | ⟨.whileRounds cond body _, around, _⟩ => ∃ outer ss,
    around = .whileLoop cond body :: outer ∧ Stands p outer (.whileLoop cond body :: ss)

theorem Starts.inPlace (h : Starts context limit a b) (there : a.InPlace p) : b.InPlace p := by
  cases h with
  | first => exact ⟨_, there⟩
  | next => exact there.later
  | branch => exact ⟨rfl, List.Subset.refl _, there⟩
  | elseBody =>
      obtain ⟨-, blocks, ss, stands⟩ := there
      exact stands.inside (blocks (List.mem_singleton_self _))
  | elifBody =>
      obtain ⟨-, blocks, ss, stands⟩ := there
      exact stands.inside (blocks List.mem_cons_self)
  | elifRest =>
      obtain ⟨noLoop, blocks, stands⟩ := there
      exact ⟨noLoop, fun _ block => blocks (List.mem_cons_of_mem _ block), stands⟩
  | forLoop =>
      obtain ⟨ss, stands⟩ := there
      exact ⟨_, _, ss, rfl, stands⟩
  | forRound =>
      obtain ⟨iterable, outer, ss, rfl, stands⟩ := there
      exact stands.inside (List.mem_singleton_self _)
  | forNext => exact there
  | whileLoop =>
      obtain ⟨ss, stands⟩ := there
      exact ⟨_, ss, rfl, stands⟩
  | whileRound =>
      obtain ⟨outer, ss, rfl, stands⟩ := there
      exact stands.inside (List.mem_singleton_self _)
  | whileNext => exact there

/-! ### The number of loops -/

/-- The number of loops that the state counts is that of the loops that the code stands in. -/
def Activity.Counts (a : Activity) : Prop := a.state.loops = a.around.countP Stmt.isLoop

theorem Expr.loops_of_eval {e : Expr} {result : Except Stop Value} {s t : State}
    (ran : (e.eval context).outcome s = (result, t)) : t.loops = s.loops := by
  obtain ⟨_, text, writes⟩ := e.eval_writes s
  rw [writes] at ran
  cases ran
  rfl

section Body

variable (scope : Bindings) (body : List Stmt)

theorem body_moves : Run.Moves
    (State.Moved (Scopes.FramedOutside context (blockAssigns body)))
    (Run.inScope scope (runBlock context limit body)) :=
  (runBlock_moves body (List.Subset.refl _)).inBodyOutside

variable {scope body}

theorem loops_of_body {result : Except Stop Flow} {s t : State}
    (ran : (Run.inScope scope (runBlock context limit body)).outcome s = some (result, t)) :
    t.loops = s.loops :=
  (body_moves scope body s result t ran).loops

end Body

theorem Stmt.loops_of_run {s : Stmt} {result : Except Stop Flow} {u t : State}
    (ran : (s.run context limit).outcome u = some (result, t)) : t.loops = u.loops :=
  (s.run_moves (List.Subset.refl _) u result t ran).loops

/-- An activity that stands where it says and counts the loops that it stands in starts others that
do so as well. -/
theorem Starts.counts (h : Starts context limit a b) (there : a.InPlace p) (counts : a.Counts) :
    b.Counts := by
  rw [Activity.Counts] at counts ⊢
  cases h with
  | first => exact counts
  | next ran => exact (Stmt.loops_of_run ran).trans counts
  | branch => exact counts
  | elseBody => rw [State.loops_enter, List.countP_cons_of_neg (by simp [there.1]), counts]
  | elifBody checked =>
      rw [State.loops_enter, List.countP_cons_of_neg (by simp [there.1]),
        Expr.loops_of_eval checked, counts]
  | elifRest checked => exact (Expr.loops_of_eval checked).trans counts
  | forLoop evaluated =>
      rw [State.loops_inLoop, List.countP_cons_of_pos rfl, Expr.loops_of_eval evaluated, counts]
  | forRound => exact counts
  | forNext ran => exact (loops_of_body ran).trans counts
  | whileLoop => rw [State.loops_inLoop, List.countP_cons_of_pos rfl, counts]
  | whileRound checked => exact (Expr.loops_of_eval checked).trans counts
  | whileNext checked holds ran =>
      exact (loops_of_body ran).trans ((Expr.loops_of_eval checked).trans counts)

/-- Whatever is run stands in the program where it is said to stand, and the state counts the loops
that it stands in. -/
theorem Reached.sound (h : Reached context limit p a) : a.InPlace p ∧ a.Counts := by
  induction h with
  | refl => exact ⟨.top, rfl⟩
  | tail _ step ih => exact ⟨step.inPlace ih.1, step.counts ih.1 ih.2⟩

/-- Some code leaves the number of loops as it was. -/
theorem Activity.loops_of_outcome {result : Except Stop Flow} {t : State}
    (ran : a.outcome context limit = some (result, t)) : t.loops = a.state.loops := by
  obtain ⟨code, around, s⟩ := a
  cases code with
  | block ss => exact (runBlock_moves ss (List.Subset.refl _) s result t ran).loops
  | stmt stmt => exact Stmt.loops_of_run ran
  | otherwise _ rest => exact (rest.run_moves (List.Subset.refl _) s result t ran).loops
  | forRounds var body items =>
      have round (item : Value) :
          Run.Moves (State.Moved (Scopes.FramedOutside context (blockAssigns body)))
            (Run.inScope (.ofList [(var, item)]) (runBlock context limit body)) :=
        body_moves _ body
      exact ((Run.Moves.forEach round items).andThen Flow.normal s result t ran).loops
  | whileRounds cond body rounds =>
      have check : Run.Moves (State.Moved (Scopes.FramedOutside context (blockAssigns body)))
          (Run.ofEval (Value.truthy <$> cond.eval context)) :=
        .ofEval (fun s => (cond.eval_alone s).map Value.truthy) .write
      have round : Run.Moves (State.Moved (Scopes.FramedOutside context (blockAssigns body)))
          (Run.inScope .empty (runBlock context limit body)) :=
        body_moves .empty body
      exact ((Run.Moves.whileTrue check round rounds).andThen Flow.normal s result t ran).loops

end Stencil
