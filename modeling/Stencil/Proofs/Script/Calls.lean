import Stencil.Proofs.Render.Outcome

/-!
# Output as calls

The text of a program shows what it writes as calls of two functions, so that is how the reader
understands it. Apart from that nothing changes, and neither does what the program does.
-/

namespace Stencil

mutual

def Stmt.asCalls : Stmt → Stmt
  | .emitText text => .expr (.call "emit_literal" [.literal (.string text)])
  | .emit e => .expr (.call "emit_value" [e])
  | .branch cond body otherwise => .branch cond (blockAsCalls body) otherwise.asCalls
  | .forLoop var iterable body => .forLoop var iterable (blockAsCalls body)
  | .whileLoop cond body => .whileLoop cond (blockAsCalls body)
  | s => s

def Else.asCalls : Else → Else
  | .nothing => .nothing
  | .block body => .block (blockAsCalls body)
  | .elif cond body otherwise => .elif cond (blockAsCalls body) otherwise.asCalls

def blockAsCalls : List Stmt → List Stmt
  | [] => []
  | s :: ss => s.asCalls :: blockAsCalls ss

end

def Program.asCalls (p : Program) : Program := blockAsCalls p

section Run

variable (context : Context) (limit : Nat)

theorem Stmt.run_emitText (text : String) :
    (Stmt.emitText text).asCalls.run context limit = (Stmt.emitText text).run context limit := by
  have callee : Callee.ofName "emit_literal" = .writeString := by decide
  have call : (Expr.call "emit_literal" [.literal (.string text)]).eval context =
      (do Eval.write (.string text); return .none) := by
    rw [Expr.eval, callee]
    rfl
  have same : (Value.string text).text = text := by
    rw [Value.text, Value.chars]
    exact String.ofList_toList
  rw [Stmt.asCalls, Stmt.run, Stmt.run, call]
  funext s
  change Run.outcome _ s = Run.outcome _ s
  simp only [Run.outcome_bind, Run.outcome_ofEval, Eval.outcome_bind, Eval.outcome_write, same]
  rfl

theorem Stmt.run_emit (e : Expr) :
    (Stmt.emit e).asCalls.run context limit = (Stmt.emit e).run context limit := by
  have callee : Callee.ofName "emit_value" = .writeOne := by decide
  have call : (Expr.call "emit_value" [e]).eval context =
      (do Eval.write (← e.eval context); return .none) := by
    rw [Expr.eval, callee]
  rw [Stmt.asCalls, Stmt.run, Stmt.run, call]
  funext s
  change Run.outcome _ s = Run.outcome _ s
  simp only [Run.outcome_bind, Run.outcome_ofEval, Eval.outcome_bind]
  cases Eval.outcome (e.eval context) s with
  | mk result s' => cases result <;> rfl

mutual

theorem Stmt.run_asCalls : ∀ s : Stmt, s.asCalls.run context limit = s.run context limit
  | .emitText text => Stmt.run_emitText context limit text
  | .emit e => Stmt.run_emit context limit e
  | .declare .. | .assign .. | .expr _ | .breakLoop | .continueLoop => by rw [Stmt.asCalls] <;> simp
  | .branch cond body otherwise => by
    rw [Stmt.asCalls, Stmt.run, Stmt.run, runBlock_asCalls body, Else.run_asCalls otherwise]
  | .forLoop var iterable body => by
    rw [Stmt.asCalls, Stmt.run, Stmt.run, runBlock_asCalls body]
  | .whileLoop cond body => by
    rw [Stmt.asCalls, Stmt.run, Stmt.run, runBlock_asCalls body]

theorem Else.run_asCalls : ∀ o : Else, o.asCalls.run context limit = o.run context limit
  | .nothing => by rw [Else.asCalls]
  | .block body => by rw [Else.asCalls, Else.run, Else.run, runBlock_asCalls body]
  | .elif cond body otherwise => by
    rw [Else.asCalls, Else.run, Else.run, runBlock_asCalls body, Else.run_asCalls otherwise]

theorem runBlock_asCalls : ∀ ss : List Stmt,
    runBlock context limit (blockAsCalls ss) = runBlock context limit ss
  | [] => by rw [blockAsCalls]
  | s :: ss => by
    rw [blockAsCalls, runBlock, runBlock, Stmt.run_asCalls s, runBlock_asCalls ss]

end

/-- The program does the same with output written as calls. -/
theorem Program.run_asCalls (p : Program) : p.asCalls.run context limit = p.run context limit := by
  simp only [Program.run, Program.runFrom, Program.asCalls, runBlock_asCalls]

end Run

end Stencil
