import Stencil.Builtin
import Stencil.Expr
import Stencil.Render.State
import Stencil.Value.Arithmetic

/-!
# Evaluating expressions

Operands and arguments are evaluated from left to right, and the first failure ends the evaluation.
The connectives leave their right operand alone once the left one decides. Only calls of the output
functions change the state, and they do so at once: what has been written stays written when a later
failure is caught by `default`.
-/

namespace Stencil

/-- An evaluation: it yields a result or a reason to stop, and a state in both cases. -/
abbrev Eval := ExceptT Stop (StateM State)

namespace Eval

/-- Stops with a failure, or goes on with a result. -/
def ofExcept {α : Type} : Except Failure α → Eval α
  | .ok a => pure a
  | .error failure => throw (.failed failure)

/-- Writes the text of a value. -/
def write (v : Value) : Eval Unit := modify (·.write v.text)

/-- The value of a name: that of the nearest scope, else that of the context. -/
def lookup (context : Context) (name : String) : Eval Value := do
  match (← get).scopes.find? name <|> context.find? name with
  | some v => return v
  | none => throw (.unbound name)

/-- Whether a reason to stop only means that something is missing. -/
def isMissing : Stop → Bool
  | .unbound _ => true
  | .failed (.missingKey _) => true
  | .failed _ => false

/-- Takes `none` for what is missing. The state stays as the evaluation left it. -/
def orNone (e : Eval Value) : Eval Value :=
  tryCatch e fun stop => if isMissing stop then pure .none else throw stop

end Eval

/-- Whether the left operand alone is the result. -/
def Connective.decidedBy : Connective → Value → Bool
  | .or, v => v.truthy
  | .and, v => !v.truthy

/-- What the name of a call stands for. -/
inductive Callee where
  /-- Writes all its arguments. -/
  | write
  /-- Writes its only argument. -/
  | writeOne
  /-- Writes its only argument, which has to be a string. -/
  | writeString
  | builtin (b : Builtin)
  | unknown
deriving DecidableEq

namespace Callee

def ofName (name : String) : Callee :=
  if name = "emit" ∨ name = "write" then .write
  else if name = "emit_value" then .writeOne
  else if name = "emit_literal" then .writeString
  else
    match Builtin.ofName? name with
    | some b => .builtin b
    | none => .unknown

end Callee

namespace Eval

/-- Writes a value that has to be a string. -/
def writeString (function : String) (v : Value) : Eval Value := do
  if v.asString?.isNone then
    throw (.failed (.invalidArgument function "a string" v.typeName))
  write v
  return .none

/-- The failure of a call that takes exactly one argument. -/
def notOne (function : String) (args : List Expr) : Eval Value :=
  throw (.failed (.argumentCount function "1" args.length))

end Eval

mutual

def Expr.eval (context : Context) : Expr → Eval Value
  | .literal l => pure l.value
  | .list items => do return .list (← evalAll context items)
  | .var name => Eval.lookup context name
  | .unary op e => do Eval.ofExcept (op.apply (← e.eval context))
  | .connect op l r => do
    let left ← l.eval context
    if op.decidedBy left then return left
    r.eval context
  | .binary op l r => do
    let left ← l.eval context
    let right ← r.eval context
    Eval.ofExcept (op.apply left right)
  | .call function args =>
    match Callee.ofName function with
    | .write => do
      writeAll context args
      return .none
    | .writeOne =>
      match args with
      | [arg] => do
        Eval.write (← arg.eval context)
        return .none
      | args => Eval.notOne function args
    | .writeString =>
      match args with
      | [arg] => do Eval.writeString function (← arg.eval context)
      | args => Eval.notOne function args
    | .builtin .default =>
      match args with
      | arg :: args => do
        let v ← Eval.orNone (arg.eval context)
        Eval.ofExcept (Builtin.default.call (v :: (← evalAll context args)))
      | [] => Eval.ofExcept (Builtin.default.call [])
    | .builtin b => do Eval.ofExcept (b.call (← evalAll context args))
    | .unknown => do
      let _ ← evalAll context args
      throw (.failed (.unknownFunction function))
  | .index target position => do
    let v ← target.eval context
    let i ← position.eval context
    Eval.ofExcept (v.index i)
  | .member target name => do Eval.ofExcept ((← target.eval context).member name)

def evalAll (context : Context) : List Expr → Eval (List Value)
  | [] => return []
  | e :: es => do
    let v ← e.eval context
    return v :: (← evalAll context es)

/-- Evaluates expressions one after another, and writes each value before the next is evaluated. -/
def writeAll (context : Context) : List Expr → Eval Unit
  | [] => return ()
  | e :: es => do
    Eval.write (← e.eval context)
    writeAll context es

end

end Stencil
