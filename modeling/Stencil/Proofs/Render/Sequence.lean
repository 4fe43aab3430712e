import Stencil.Proofs.Render.Frame

/-!
# Programs one after another

A block runs its statements in order, up to one that does not end normally, and so does a block in
two halves (`runBlock_append`). Where no loop is being run, nothing ends other than normally: a
statement that leaves or continues a loop is a failure there, and a loop keeps to itself what its
body does to it (`runBlock_calm`). So a program is run by running its halves, one after the other.
-/

namespace Stencil

variable {context : Context} {limit : Nat}

namespace Run

variable {α : Type}

/-- Goes on with a second run if the first one ends normally. -/
def followedBy (first second : Run Flow) : Run Flow := do
  match ← first with
  | .normal => second
  | flow => return flow

theorem followedBy_assoc (first second third : Run Flow) :
    (first.followedBy second).followedBy third = first.followedBy (second.followedBy third) := by
  rw [followedBy, followedBy, followedBy, bind_assoc]
  congr 1
  funext flow
  cases flow with
  | normal => rfl
  | leave => rw [pure_bind]
  | next => rw [pure_bind]

/-- A run that ends normally, unless it stops, where no loop is being run. -/
def Calm (r : Run Flow) : Prop :=
  ∀ s flow t, s.loops = 0 → r.outcome s = some (.ok flow, t) → flow = .normal

namespace Calm

/-- A run whose result does not matter. -/
theorem andThen (r : Run α) : Calm (do
    let _ ← r
    return .normal) := by
  intro s flow t _ ran
  rw [outcome_bind] at ran
  split at ran
  · cases ran
    rfl
  · cases ran
  · cases ran

theorem bind {r : Run α} {f : α → Run Flow} (keeps : Moves (fun s t => t.loops = s.loops) r)
    (next : ∀ a, Calm (f a)) : Calm (r >>= f) := by
  intro s flow t outside ran
  rw [outcome_bind] at ran
  split at ran
  · next a u first => exact next a u flow t ((keeps s _ u first).trans outside) ran
  · cases ran
  · cases ran

theorem followedBy {first second : Run Flow}
    (keeps : Moves (fun s t => t.loops = s.loops) first) (h : Calm first) (h' : Calm second) :
    Calm (first.followedBy second) := by
  intro s flow t outside ran
  rw [Run.followedBy, outcome_bind] at ran
  split at ran
  · next a u before =>
    obtain rfl := h s a u outside before
    exact h' u flow t ((keeps s _ u before).trans outside) ran
  · cases ran
  · cases ran

theorem inScope {scope : Bindings} {body : Run Flow} (h : Calm body) :
    Calm (Run.inScope scope body) := by
  intro s flow t outside ran
  rw [outcome_inScope, Option.map_eq_some_iff] at ran
  obtain ⟨⟨result, u⟩, ran, eq⟩ := ran
  cases eq
  exact h (s.enter scope) flow u outside ran

theorem control (keyword : String) (flow : Flow) : Calm (Run.control keyword flow) := by
  intro s flow' t outside ran
  rw [outcome_control, if_pos outside] at ran
  cases ran

end Calm

end Run

theorem runBlock_cons (s : Stmt) (ss : List Stmt) :
    runBlock context limit (s :: ss) =
      (s.run context limit).followedBy (runBlock context limit ss) := by
  rw [runBlock]
  rfl

/-- Statements in two halves. -/
theorem runBlock_append (p q : List Stmt) :
    runBlock context limit (p ++ q) =
      (runBlock context limit p).followedBy (runBlock context limit q) := by
  induction p with
  | nil =>
      rw [List.nil_append, runBlock, Run.followedBy, pure_bind]
  | cons s p ih =>
      rw [List.cons_append, runBlock_cons, runBlock_cons, ih, Run.followedBy_assoc]

theorem Expr.keepsLoops (e : Expr) :
    Run.Moves (fun s t => t.loops = s.loops) (Run.ofEval (e.eval context)) :=
  .ofEval e.eval_alone fun _ _ => rfl

mutual

theorem Stmt.run_calm : ∀ s : Stmt, Run.Calm (s.run context limit)
  | .emitText text => by
    rw [Stmt.run]
    exact .andThen _
  | .emit e => by
    rw [Stmt.run]
    exact .andThen _
  | .declare name value => by
    rw [Stmt.run]
    exact .bind value.keepsLoops fun v => .andThen _
  | .assign name op value => by
    rw [Stmt.run]
    have keeps : Run.Moves (fun s t => t.loops = s.loops)
        (Run.ofEval (value.eval context >>= Run.assigned context name op)) :=
      .ofEval (fun s => assigned_lockstep fun _ _ => rfl) fun _ _ => rfl
    exact .bind keeps fun v => .andThen _
  | .expr e => by
    rw [Stmt.run]
    exact .andThen _
  | .branch cond body otherwise => by
    rw [Stmt.run]
    refine .bind cond.keepsLoops ?_
    intro v
    split
    · exact (runBlock_calm body).inScope
    · exact otherwise.run_calm
  | .forLoop var iterable body => by
    rw [Stmt.run]
    refine .bind iterable.keepsLoops ?_
    intro v
    have listed (s : State) : Eval.Lockstep (Eval.ofExcept v.items) (Eval.ofExcept v.items) s s
        fun _ => True := .ofExcept (fun _ => trivial) v.items
    have keeps : Run.Moves (fun s t => t.loops = s.loops) (Run.ofEval (Eval.ofExcept v.items)) :=
      .ofEval listed fun _ _ => rfl
    exact .bind keeps fun items => .andThen _
  | .whileLoop cond body => by
    rw [Stmt.run]
    exact .andThen _
  | .breakLoop => by
    rw [Stmt.run]
    exact .control "break" .leave
  | .continueLoop => by
    rw [Stmt.run]
    exact .control "continue" .next

theorem Else.run_calm : ∀ e : Else, Run.Calm (e.run context limit)
  | .nothing => by
    rw [Else.run]
    intro s flow t _ ran
    cases ran
    rfl
  | .block body => by
    rw [Else.run]
    exact (runBlock_calm body).inScope
  | .elif cond body otherwise => by
    rw [Else.run]
    refine .bind cond.keepsLoops ?_
    intro v
    split
    · exact (runBlock_calm body).inScope
    · exact otherwise.run_calm

/-- Where no loop is being run, statements end normally or stop. -/
theorem runBlock_calm : ∀ ss : List Stmt, Run.Calm (runBlock context limit ss)
  | [] => by
    rw [runBlock]
    intro s flow t _ ran
    cases ran
    rfl
  | s :: ss => by
    rw [runBlock_cons]
    have keeps : Run.Moves (fun s t => t.loops = s.loops) (s.run context limit) :=
      (s.run_moves (List.Subset.refl _)).mono fun _ _ moved => moved.loops
    exact .followedBy keeps s.run_calm (runBlock_calm ss)

end

/-- Where no loop is being run, two programs one after the other are run by running the second in
the state that the first one leaves. -/
theorem runBlock_append_outside (p q : Program) (s : State) (outside : s.loops = 0) :
    (runBlock context limit (p ++ q)).outcome s =
      (do
        let _ ← runBlock context limit p
        runBlock context limit q).outcome s := by
  rw [runBlock_append, Run.followedBy, Run.outcome_bind, Run.outcome_bind]
  cases ran : (runBlock context limit p).outcome s with
  | none => rfl
  | some end_ =>
      obtain ⟨result, t⟩ := end_
      cases result with
      | error stop => rfl
      | ok flow =>
          obtain rfl := runBlock_calm p s flow t outside ran
          rfl

end Stencil
