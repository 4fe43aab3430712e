import Mathlib
import Stencil.Script.Cursor
import Stencil.Stmt

/-!
# How deep the reader goes

Going deeper into the tree is counted, and the count is taken back where a complete expression or a
body ends. What the count comes to while a text is read depends on the tree that was written down:
operators, minus signs, calls, indexes and members leave it one higher each, and what stands in
brackets or between braces leaves it as it was.
-/

namespace Stencil

/-- How the depth moves while something is read: how much higher it is at the end, and how much
higher it is at most in between. -/
@[ext]
structure Climb where
  rise : Nat
  peak : Nat
  le : rise ≤ peak
deriving DecidableEq

namespace Climb

def flat : Climb := ⟨0, 0, Nat.le_refl 0⟩

def step : Climb := ⟨1, 1, Nat.le_refl 1⟩

/-- What is read one level deeper, and comes back. -/
def inside (a : Climb) : Climb := ⟨0, a.peak + 1, Nat.zero_le _⟩

/-- One climb after another. -/
instance : Append Climb where
  append a b :=
    ⟨a.rise + b.rise, max a.peak (a.rise + b.peak), by have := b.le; omega⟩

@[simp] theorem rise_flat : flat.rise = 0 := rfl

@[simp] theorem peak_flat : flat.peak = 0 := rfl

@[simp] theorem rise_step : step.rise = 1 := rfl

@[simp] theorem peak_step : step.peak = 1 := rfl

@[simp] theorem rise_inside (a : Climb) : a.inside.rise = 0 := rfl

@[simp] theorem peak_inside (a : Climb) : a.inside.peak = a.peak + 1 := rfl

@[simp] theorem rise_append (a b : Climb) : (a ++ b).rise = a.rise + b.rise := rfl

@[simp] theorem peak_append (a b : Climb) : (a ++ b).peak = max a.peak (a.rise + b.peak) := rfl

@[simp] theorem flat_append (a : Climb) : flat ++ a = a := by
  ext <;> simp

@[simp] theorem append_flat (a : Climb) : a ++ flat = a := by
  have := a.le
  ext <;> simp
  omega

/-- What stands in parentheses is a complete expression. -/
def enclose (needed : Bool) (a : Climb) : Climb := if needed then a.inside else a

end Climb

namespace BinaryOp

/-- Whether an operator compares; those that do share one strength. -/
def compares (op : BinaryOp) : Bool := op.strength == eq.strength

/-- Comparisons do not repeat, so they need no level. -/
def climb (op : BinaryOp) : Climb := if op.compares then .flat else .step

end BinaryOp

mutual

/-- How deep the reader of a written expression goes. -/
def Expr.climb : Expr → Climb
  | .literal _ => .flat
  | .list items => climbAll items
  | .var _ => .flat
  | .unary op e => .step ++ e.climb.enclose (e.strength < op.strength)
  | .connect op l r =>
    l.climb.enclose (l.strength < op.strength) ++
      (.step ++ r.climb.enclose (r.strength < op.strength + 1))
  | .binary op l r =>
    l.climb.enclose (l.strength < op.strength) ++
      (op.climb ++ r.climb.enclose (r.strength < op.strength + 1))
  | .call _ args => .step ++ climbAll args
  | .index target position =>
    target.climb.enclose (target.strength < Expr.postfixStrength) ++ (.step ++ position.climb.inside)
  | .member target _ =>
    target.climb.enclose (target.strength < Expr.postfixStrength) ++ .step

def climbAll : List Expr → Climb
  | [] => .flat
  | e :: es => e.climb.inside ++ climbAll es

end

@[simp] theorem rise_climbAll (es : List Expr) : (climbAll es).rise = 0 := by
  induction es with
  | nil => rfl
  | cons e es ih => simp [climbAll, ih]

mutual

/-- How deep the reader of a written statement goes. -/
def Stmt.climb : Stmt → Climb
  | .emitText text => (Expr.call "emit_literal" [.literal (.string text)]).climb.inside
  | .emit e => (Expr.call "emit_value" [e]).climb.inside
  | .declare _ value => value.climb.inside
  | .assign _ _ value => value.climb.inside
  | .expr e => e.climb.inside
  | .branch cond body otherwise =>
    cond.climb.inside ++ ((blockClimb body).inside ++ otherwise.climb)
  | .forLoop _ iterable body => iterable.climb.inside ++ (blockClimb body).inside
  | .whileLoop cond body => cond.climb.inside ++ (blockClimb body).inside
  | .breakLoop => .flat
  | .continueLoop => .flat

def Else.climb : Else → Climb
  | .nothing => .flat
  | .block body => (blockClimb body).inside
  | .elif cond body otherwise =>
    cond.climb.inside ++ ((blockClimb body).inside ++ otherwise.climb)

def blockClimb : List Stmt → Climb
  | [] => .flat
  | s :: ss => s.climb ++ blockClimb ss

end

/-- Statements leave the depth as it was. -/
@[simp] theorem Else.rise_climb : ∀ o : Else, o.climb.rise = 0
  | .nothing => rfl
  | .block _ => rfl
  | .elif _ _ otherwise => by simp [Else.climb, Else.rise_climb otherwise]

@[simp] theorem Stmt.rise_climb (s : Stmt) : s.climb.rise = 0 := by
  cases s <;> simp [Stmt.climb]

def Expr.compares : Expr → Bool
  | .binary op _ _ => op.compares
  | _ => false

mutual

/-- Whether a comparison is the left operand of another one somewhere. It is written without
parentheses then. -/
def Expr.chains : Expr → Bool
  | .literal _ => false
  | .list items => chainsAny items
  | .var _ => false
  | .unary _ e => e.chains
  | .connect _ l r => l.chains || r.chains
  | .binary op l r => (op.compares && l.compares) || (l.chains || r.chains)
  | .call _ args => chainsAny args
  | .index target position => target.chains || position.chains
  | .member target _ => target.chains

def chainsAny : List Expr → Bool
  | [] => false
  | e :: es => e.chains || chainsAny es

end

mutual

def Stmt.chains : Stmt → Bool
  | .emitText _ => false
  | .emit e => e.chains
  | .declare _ value => value.chains
  | .assign _ _ value => value.chains
  | .expr e => e.chains
  | .branch cond body otherwise => cond.chains || (blockChains body || otherwise.chains)
  | .forLoop _ iterable body => iterable.chains || blockChains body
  | .whileLoop cond body => cond.chains || blockChains body
  | .breakLoop => false
  | .continueLoop => false

def Else.chains : Else → Bool
  | .nothing => false
  | .block body => blockChains body
  | .elif cond body otherwise => cond.chains || (blockChains body || otherwise.chains)

def blockChains : List Stmt → Bool
  | [] => false
  | s :: ss => s.chains || blockChains ss

end

namespace Script

/-- Something that is counted down from `n` does not run out before the levels do. -/
structure Enough (n d : Nat) : Prop where
  within : d ≤ maxDepth
  beyond : maxDepth < n + d

/-- What reading something of climb `a` may fail with from the depth `d` on: there are too few
levels for it. Where comparisons are chained it may fail with anything. -/
def Excuse (a : Climb) (chained : Bool) (d : Nat) (err : Error) : Prop :=
  chained = true ∨ (err.defect = .nestedTooDeeply ∧ maxDepth < d + a.peak)

section Excuse

variable {n d : Nat} {a b : Climb} {chained chained' : Bool} {err : Error}

theorem Enough.ne_zero (h : Enough n d) : n ≠ 0 := by
  have := h.within
  have := h.beyond
  omega

/-- One more level and one count less. -/
theorem Enough.next (h : Enough (n + 1) d) (more : d < maxDepth) : Enough n (d + 1) := by
  have := h.beyond
  exact ⟨by omega, by omega⟩

theorem Enough.rise (h : Enough n d) (fits : d + a.peak ≤ maxDepth) : Enough n (d + a.rise) := by
  have := a.le
  have := h.beyond
  exact ⟨by omega, by omega⟩

theorem enough_start (h : d ≤ maxDepth) : Enough (maxDepth + 1) d := ⟨h, by omega⟩

/-- The same further up. -/
theorem Enough.up {d' : Nat} (h : Enough n d) (le : d ≤ d') (within : d' ≤ maxDepth) :
    Enough n d' := by
  have := h.beyond
  exact ⟨within, by omega⟩

theorem Excuse.full (full : maxDepth ≤ d) (up : 0 < a.peak) (h : err.defect = .nestedTooDeeply) :
    Excuse a chained d err := .inr ⟨h, by omega⟩

/-- What goes deeper is excused for more. -/
theorem Excuse.mono {d' : Nat} (h : Excuse a chained d err)
    (imp : chained = true → chained' = true) (le : d + a.peak ≤ d' + b.peak) :
    Excuse b chained' d' err := by
  rcases h with chains | ⟨deep, few⟩
  · exact .inl (imp chains)
  · exact .inr ⟨deep, by omega⟩

theorem Excuse.left (h : Excuse a chained d err) : Excuse (a ++ b) (chained || chained') d err :=
  h.mono (fun chains => by simp [chains]) (by simp)

theorem Excuse.right (h : Excuse b chained' (d + a.rise) err) :
    Excuse (a ++ b) (chained || chained') d err :=
  h.mono (fun chains => by simp [chains]) (by simp; omega)

theorem Excuse.above (h : Excuse b chained (d + 1) err) : Excuse (.step ++ b) chained d err :=
  Excuse.mono h id (by rw [Climb.peak_append, Climb.rise_step]; omega)

theorem Excuse.inside (h : Excuse a chained (d + 1) err) : Excuse a.inside chained d err :=
  Excuse.mono h id (by rw [Climb.peak_inside]; omega)

end Excuse

end Script

end Stencil
