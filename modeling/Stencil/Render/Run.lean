import Stencil.Render.Eval
import Stencil.Stmt

/-!
# Running statements

A body runs in a scope of its own, which is left however the body ends. A loop ends when its body
breaks out of it. A conditional loop may go on for ever, so a run carries a limit on the rounds of
each such loop and has no outcome when one reaches it; every other part of a run ends by itself.
-/

namespace Stencil

/-- A run: it yields a result or a reason to stop, and a state in both cases, unless a loop reaches
the limit. -/
abbrev Run := ExceptT Stop (StateT State Option)

/-- How a statement ends. -/
inductive Flow where
  /-- The next statement follows. -/
  | normal
  /-- The innermost loop ends. -/
  | leave
  /-- The next round of the innermost loop follows. -/
  | next
deriving DecidableEq

namespace Run

/-- An evaluation as a run. It always has an outcome. -/
def ofEval {α : Type} (e : Eval α) : Run α := fun s => some (e.run.run s)

/-- No outcome at all. -/
def exhausted {α : Type} : Run α := fun _ => none

/-- Runs a body in a scope of its own. -/
def inScope {α : Type} (scope : Bindings) (body : Run α) : Run α := fun s =>
  match body.run.run (s.enter scope) with
  | some (result, s') => some (result, s'.exit)
  | none => none

/-- Runs a loop, counted as one while it lasts. -/
def inLoop {α : Type} (loop : Run α) : Run α := fun s =>
  match loop.run.run s.inLoop with
  | some (result, s') => some (result, s'.outOfLoop)
  | none => none

/-- Runs `body` for each value, until one round leaves the loop. -/
def forEach (body : Value → Run Flow) : List Value → Run Unit
  | [] => return ()
  | v :: vs => do
    match ← body v with
    | .leave => return ()
    | _ => forEach body vs

/-- Runs `body` as long as the condition holds, until one round leaves the loop. -/
def whileTrue (cond : Run Bool) (body : Run Flow) : (limit : Nat) → Run Unit
  | 0 => exhausted
  | limit + 1 => do
    if ← cond then
      match ← body with
      | .leave => return ()
      | _ => whileTrue cond body limit
    else return ()

/-- Ends a statement so that the loop around it is left or continued; there has to be one. -/
def control (keyword : String) (flow : Flow) : Run Flow := do
  if (← get).loops = 0 then throw (.failed (.outsideLoop keyword))
  return flow

/-- The new value of a name that is assigned to. -/
def assigned (context : Context) (name : String) (op : AssignOp) (value : Value) : Eval Value :=
  match op.operator? with
  | some operator => do
    let old ← Eval.lookup context name
    Eval.ofExcept (operator.apply old value)
  | none => return value

end Run

mutual

def Stmt.run (context : Context) (limit : Nat) : Stmt → Run Flow
  | .emitText text => do
    modify (·.write text)
    return .normal
  | .emit e => do
    Run.ofEval (e.eval context >>= Eval.write)
    return .normal
  | .declare name value => do
    let v ← Run.ofEval (value.eval context)
    modify fun s => { s with scopes := s.scopes.declare name v }
    return .normal
  | .assign name op value => do
    let v ← Run.ofEval (value.eval context >>= Run.assigned context name op)
    modify fun s => { s with scopes := s.scopes.assign context name v }
    return .normal
  | .expr e => do
    let _ ← Run.ofEval (e.eval context)
    return .normal
  | .branch cond body otherwise => do
    if (← Run.ofEval (cond.eval context)).truthy then
      Run.inScope .empty (runBlock context limit body)
    else otherwise.run context limit
  | .forLoop var iterable body => do
    let v ← Run.ofEval (iterable.eval context)
    let items ← Run.ofEval (Eval.ofExcept v.items)
    Run.inLoop (Run.forEach
      (fun item => Run.inScope (.ofList [(var, item)]) (runBlock context limit body)) items)
    return .normal
  | .whileLoop cond body => do
    Run.inLoop (Run.whileTrue (Run.ofEval (Value.truthy <$> cond.eval context))
      (Run.inScope .empty (runBlock context limit body)) limit)
    return .normal
  | .breakLoop => Run.control "break" .leave
  | .continueLoop => Run.control "continue" .next

/-- Runs the rest of a conditional whose conditions have failed so far. -/
def Else.run (context : Context) (limit : Nat) : Else → Run Flow
  | .nothing => return .normal
  | .block body => Run.inScope .empty (runBlock context limit body)
  | .elif cond body otherwise => do
    if (← Run.ofEval (cond.eval context)).truthy then
      Run.inScope .empty (runBlock context limit body)
    else otherwise.run context limit

/-- Runs statements one after another, up to one that does not end normally. -/
def runBlock (context : Context) (limit : Nat) : List Stmt → Run Flow
  | [] => return .normal
  | s :: ss => do
    match ← s.run context limit with
    | .normal => runBlock context limit ss
    | flow => return flow

end

/-- Runs a program from a given state, and yields the whole text that has been written by its
end. -/
def Program.runFrom (s : State) (context : Context) (limit : Nat) (p : Program) :
    Option (Except Stop String) :=
  match (runBlock context limit p).run.run s with
  | some (.ok _, s') => some (.ok s'.output)
  | some (.error stop, _) => some (.error stop)
  | none => none

/-- Runs a program from the start, and yields the text that it writes. -/
def Program.run (context : Context) (limit : Nat) (p : Program) : Option (Except Stop String) :=
  p.runFrom .start context limit

end Stencil
