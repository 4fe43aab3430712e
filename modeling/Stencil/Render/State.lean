import Stencil.Bindings
import Stencil.Failure

/-!
# The state of a render

What a running template changes: its scopes, the text written so far and the number of loops it is
in. There is always an outermost scope, which also takes the new values of names that only the
context binds, since the context itself never changes.
-/

namespace Stencil

structure Scopes where
  /-- The scopes of the bodies being run, innermost first. -/
  inner : List Bindings
  /-- The outermost scope. -/
  top : Bindings

namespace Scopes

def start : Scopes := ⟨[], .empty⟩

/-- The value that the innermost scope binding a name binds it to. -/
def find? (s : Scopes) (name : String) : Option Value :=
  s.inner.findSome? (·.find? name) <|> s.top.find? name

/-- Binds a name in the innermost scope. -/
def declare (s : Scopes) (name : String) (value : Value) : Scopes :=
  match s.inner with
  | [] => { s with top := s.top.insert name value }
  | scope :: scopes => { s with inner := scope.insert name value :: scopes }

/-- Changes a name in the first of the scopes that binds it, if one does. -/
def update? (name : String) (value : Value) : List Bindings → Option (List Bindings)
  | [] => none
  | scope :: scopes =>
    if scope.contains name then some (scope.insert name value :: scopes)
    else (update? name value scopes).map (scope :: ·)

/-- Changes the nearest binding of a name. A name that only the context binds is shadowed in the
outermost scope, and a new name is bound in the innermost one. -/
def assign (s : Scopes) (context : Context) (name : String) (value : Value) : Scopes :=
  match update? name value s.inner with
  | some inner => { s with inner }
  | none =>
    if s.top.contains name || context.contains name then { s with top := s.top.insert name value }
    else s.declare name value

def push (s : Scopes) (scope : Bindings) : Scopes := { s with inner := scope :: s.inner }

def pop (s : Scopes) : Scopes := { s with inner := s.inner.tail }

@[simp] theorem pop_push (s : Scopes) (scope : Bindings) : (s.push scope).pop = s := rfl

/-- A new binding hides all others of its name and nothing else. -/
theorem find?_declare (s : Scopes) (name n : String) (value : Value) :
    (s.declare name value).find? n = if n = name then some value else s.find? n := by
  obtain ⟨inner, top⟩ := s
  cases inner with
  | nil => by_cases h : n = name <;> simp [declare, find?, Bindings.find?_insert, h]
  | cons scope scopes =>
    by_cases h : n = name <;>
      simp [declare, find?, List.findSome?_cons, Bindings.find?_insert, h]

end Scopes

structure State where
  scopes : Scopes
  output : String
  /-- How many loops are being run. -/
  loops : Nat

namespace State

/-- Nothing bound and nothing written. -/
def start : State := ⟨.start, "", 0⟩

def write (s : State) (text : String) : State := { s with output := s.output ++ text }

/-- The state inside of a body. -/
def enter (s : State) (scope : Bindings) : State := { s with scopes := s.scopes.push scope }

/-- The state outside of a body. -/
def exit (s : State) : State := { s with scopes := s.scopes.pop }

def inLoop (s : State) : State := { s with loops := s.loops + 1 }

def outOfLoop (s : State) : State := { s with loops := s.loops - 1 }

@[simp] theorem scopes_exit (s : State) : s.exit.scopes = s.scopes.pop := rfl

@[simp] theorem loops_enter (s : State) (scope : Bindings) : (s.enter scope).loops = s.loops := rfl

@[simp] theorem loops_inLoop (s : State) : s.inLoop.loops = s.loops + 1 := rfl

end State

inductive Stop where
  /-- A name was read that nothing binds. -/
  | unbound (name : String)
  | failed (failure : Failure)
deriving DecidableEq

end Stencil
