import Mathlib
import Stencil.Render.Run

/-!
# What evaluations and runs come to

An evaluation always comes to a result and a state, a run to both or to nothing. Each way of putting
evaluations or runs together has one equation that says what it comes to; no other proof needs to
know how they are represented.
-/

namespace Stencil

namespace Eval

variable {α β : Type}

/-- The result and the state that an evaluation ends with. -/
def outcome (e : Eval α) (s : State) : Except Stop α × State := e.run.run s

@[simp] theorem outcome_pure (a : α) (s : State) : outcome (pure a) s = (.ok a, s) := rfl

@[simp] theorem outcome_throw (stop : Stop) (s : State) :
    outcome (α := α) (throw stop) s = (.error stop, s) := rfl

theorem outcome_bind (e : Eval α) (f : α → Eval β) (s : State) :
    outcome (e >>= f) s =
      match outcome e s with
      | (.ok a, s') => outcome (f a) s'
      | (.error stop, s') => (.error stop, s') := by
  change (ExceptT.bind e f) s = _
  simp only [ExceptT.bind, ExceptT.mk, bind, StateT.bind]
  cases h : e s with
  | mk result s' =>
      have h' : outcome e s = (result, s') := h
      rw [h']
      cases result <;> rfl

@[simp] theorem outcome_write (v : Value) (s : State) :
    outcome (Eval.write v) s = (.ok (), s.write v.text) := rfl

theorem outcome_lookup (context : Context) (name : String) (s : State) :
    outcome (lookup context name) s =
      match s.scopes.find? name <|> context.find? name with
      | some v => (.ok v, s)
      | none => (.error (.unbound name), s) := by
  change (match s.scopes.find? name <|> context.find? name with
    | some v => (pure v : Eval Value)
    | none => throw (Stop.unbound name)).outcome s = _
  cases s.scopes.find? name <|> context.find? name <;> rfl

theorem outcome_orNone (e : Eval Value) (s : State) :
    outcome (orNone e) s =
      match outcome e s with
      | (.ok v, s') => (.ok v, s')
      | (.error stop, s') => (if isMissing stop then .ok .none else .error stop, s') := by
  change (ExceptT.tryCatch e _) s = _
  simp only [ExceptT.tryCatch, ExceptT.mk, bind, StateT.bind]
  cases h : e s with
  | mk result s' =>
      have h' : outcome e s = (result, s') := h
      rw [h']
      cases result with
      | ok v => rfl
      | error stop =>
          by_cases missing : isMissing stop
          · simp only [if_pos missing]
            rfl
          · simp only [if_neg missing]
            rfl

end Eval

namespace Run

variable {α β : Type}

/-- The result and the state that a run ends with, if it ends. -/
def outcome (r : Run α) (s : State) : Option (Except Stop α × State) := r.run.run s

@[simp] theorem outcome_pure (a : α) (s : State) : outcome (pure a) s = some (.ok a, s) := rfl

@[simp] theorem outcome_throw (stop : Stop) (s : State) :
    outcome (α := α) (throw stop) s = some (.error stop, s) := rfl

@[simp] theorem outcome_modify (f : State → State) (s : State) :
    outcome (modify f) s = some (.ok (), f s) := rfl

@[simp] theorem outcome_exhausted (s : State) : outcome (exhausted (α := α)) s = none := rfl

@[simp] theorem outcome_ofEval (e : Eval α) (s : State) :
    outcome (ofEval e) s = some (e.outcome s) := rfl

theorem outcome_bind (r : Run α) (f : α → Run β) (s : State) :
    outcome (r >>= f) s =
      match outcome r s with
      | some (.ok a, s') => outcome (f a) s'
      | some (.error stop, s') => some (.error stop, s')
      | none => none := by
  change (ExceptT.bind r f) s = _
  simp only [ExceptT.bind, ExceptT.mk, bind, StateT.bind]
  cases h : r s with
  | none =>
      have h' : outcome r s = none := h
      rw [h']
      rfl
  | some end_ =>
      obtain ⟨result, s'⟩ := end_
      have h' : outcome r s = some (result, s') := h
      rw [h']
      cases result <;> rfl

theorem outcome_inScope (scope : Bindings) (body : Run α) (s : State) :
    outcome (inScope scope body) s =
      (outcome body (s.enter scope)).map fun (result, s') => (result, s'.exit) := by
  change inScope scope body s = _
  rw [inScope]
  cases h : outcome body (s.enter scope) with
  | none =>
      have h' : body.run.run (s.enter scope) = none := h
      rw [h']
      rfl
  | some end_ =>
      have h' : body.run.run (s.enter scope) = some end_ := h
      rw [h']
      rfl

theorem outcome_inLoop (loop : Run α) (s : State) :
    outcome (inLoop loop) s =
      (outcome loop s.inLoop).map fun (result, s') => (result, s'.outOfLoop) := by
  change inLoop loop s = _
  rw [inLoop]
  cases h : outcome loop s.inLoop with
  | none =>
      have h' : loop.run.run s.inLoop = none := h
      rw [h']
      rfl
  | some end_ =>
      have h' : loop.run.run s.inLoop = some end_ := h
      rw [h']
      rfl

theorem outcome_control (keyword : String) (flow : Flow) (s : State) :
    outcome (control keyword flow) s =
      some (if s.loops = 0 then .error (.failed (.outsideLoop keyword)) else .ok flow, s) := by
  change (if s.loops = 0 then
      (do
        throw (.failed (.outsideLoop keyword))
        pure flow : Run Flow)
    else pure flow).outcome s = _
  split <;> rfl

end Run

/-- A program comes to the output of its statements, or to the reason why they stop. -/
theorem Program.runFrom_eq (s : State) (context : Context) (limit : Nat) (p : Program) :
    p.runFrom s context limit =
      (Run.outcome (runBlock context limit p) s).map fun (result, s') =>
        result.map fun _ => s'.output := by
  rw [Program.runFrom]
  cases h : Run.outcome (runBlock context limit p) s with
  | none =>
      have h' : (runBlock context limit p).run.run s = none := h
      rw [h']
      rfl
  | some end_ =>
      obtain ⟨result, s'⟩ := end_
      have h' : (runBlock context limit p).run.run s = some (result, s') := h
      rw [h']
      cases result <;> rfl

end Stencil
