import Stencil.Builtin
import Stencil.Stmt

/-!
# Free names

The names that a program reads without having bound them. Every statement is walked once, in
order, with the names that are bound where it stands: a body adds its own bindings and they end
with it. A name that stands directly as the first argument of `default` need not be bound at all.
-/

namespace Stencil

mutual

/-- The names that an expression reads, in the order of reading. -/
def Expr.reads : Expr → List String
  | .literal _ => []
  | .list items => readsAll items
  | .var name => [name]
  | .unary _ e => e.reads
  | .connect _ l r => l.reads ++ r.reads
  | .binary _ l r => l.reads ++ r.reads
  | .call function (.var name :: args) =>
    if function = Builtin.default.name then readsAll args else name :: readsAll args
  | .call _ args => readsAll args
  | .index target position => target.reads ++ position.reads
  | .member target _ => target.reads

def readsAll : List Expr → List String
  | [] => []
  | e :: es => e.reads ++ readsAll es

end

/-- The names that a statement binds for those after it. -/
def Stmt.binds : Stmt → List String
  | .declare name _ => [name]
  | .assign name _ _ => [name]
  | _ => []

/-- The names of a list that are not bound. -/
def unboundIn (bound names : List String) : List String :=
  names.filter fun name => !bound.contains name

mutual

/-- The names that a statement reads although they are not bound, in order and with repetitions. -/
def Stmt.freeNames (bound : List String) : Stmt → List String
  | .emitText _ => []
  | .emit e => unboundIn bound e.reads
  | .declare _ value => unboundIn bound value.reads
  | .assign name op value =>
    unboundIn bound (value.reads ++ if op = .set then [] else [name])
  | .expr e => unboundIn bound e.reads
  | .branch cond body otherwise =>
    unboundIn bound cond.reads ++ blockFreeNames bound body ++ otherwise.freeNames bound
  | .forLoop var iterable body =>
    unboundIn bound iterable.reads ++ blockFreeNames (var :: bound) body
  | .whileLoop cond body => unboundIn bound cond.reads ++ blockFreeNames bound body
  | .breakLoop => []
  | .continueLoop => []

def Else.freeNames (bound : List String) : Else → List String
  | .nothing => []
  | .block body => blockFreeNames bound body
  | .elif cond body otherwise =>
    unboundIn bound cond.reads ++ blockFreeNames bound body ++ otherwise.freeNames bound

def blockFreeNames (bound : List String) : List Stmt → List String
  | [] => []
  | s :: ss => s.freeNames bound ++ blockFreeNames (s.binds ++ bound) ss

end

/-- The free names of a program, each once, in the order of their first use. -/
def Program.freeNames (p : Program) : List String := (blockFreeNames [] p).eraseDups

end Stencil
