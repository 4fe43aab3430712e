import Stencil.Proofs.Attempts
import Stencil.Proofs.Render.Evaluation

/-!
# Failures that are about loops

There is one failure that is not about values, that of leaving or continuing a loop where there is
none. No operation on values fails with it, and so no evaluation does either
(`Expr.eval_loopless`): only the statement itself can.
-/

namespace Stencil

/-- Whether the failure is that of a loop to be left or continued where there is none. -/
def Failure.isOfLoop : Failure → Bool
  | .outsideLoop _ => true
  | _ => false

/-- An attempt that does not fail for want of a loop. -/
def Loopless {α : Type} (x : Except Failure α) : Prop :=
  ∀ failure, x = .error failure → failure.isOfLoop = false

namespace Loopless

variable {α β : Type}

theorem ok (a : α) : Loopless (.ok a) := by
  intro failure h
  cases h

theorem error {failure : Failure} (h : failure.isOfLoop = false) :
    Loopless (α := α) (.error failure) := by
  intro failure' h'
  cases h'
  exact h

theorem bind {x : Except Failure α} {f : α → Except Failure β} (h : Loopless x)
    (next : ∀ a, Loopless (f a)) : Loopless (x >>= f) := by
  intro failure failed
  rcases bind_eq_error.1 failed with first | ⟨a, -, later⟩
  · exact h failure first
  · exact next a failure later

theorem map {x : Except Failure α} (h : Loopless x) (f : α → β) : Loopless (f <$> x) := by
  cases x with
  | ok a => exact .ok (f a)
  | error failure => exact .error (h failure rfl)

end Loopless

/-! ### Operations on values -/

namespace Value

theorem checked_loopless (op : String) (i : Int) : Loopless (checked op i) := by
  rw [checked]
  split
  · exact .ok _
  · exact .error rfl

theorem intArithmetic_loopless (op : Arithmetic) (a b : Int) :
    Loopless (intArithmetic op a b) := by
  cases op with
  | add => exact checked_loopless _ _
  | sub => exact checked_loopless _ _
  | mul => exact checked_loopless _ _
  | div =>
      rw [intArithmetic]
      split
      · exact .error rfl
      · exact checked_loopless _ _
  | rem =>
      rw [intArithmetic]
      split
      · exact .error rfl
      · exact (checked_loopless _ _).bind fun _ => checked_loopless _ _

theorem floatArithmetic_loopless (op : Arithmetic) (x y : Float) :
    Loopless (floatArithmetic op x y) := by
  cases op <;> rw [floatArithmetic]
  case add | sub | mul => exact .ok _
  case div | rem =>
    split
    · exact .error rfl
    · exact .ok _

theorem repeatText_loopless (op s : String) (count : Int) : Loopless (repeatText op s count) := by
  rw [repeatText]
  split
  · exact .error rfl
  · split <;> exact .ok _

theorem arithmetic_loopless (op : Arithmetic) (left right : Value) :
    Loopless (arithmetic op left right) := by
  rw [arithmetic.eq_def]
  split
  · exact intArithmetic_loopless _ _ _
  · exact .ok _
  · exact .ok _
  · exact repeatText_loopless _ _ _
  · exact repeatText_loopless _ _ _
  · split
    · exact floatArithmetic_loopless _ _ _
    · exact .error rfl

theorem compare_loopless (relation : Comparison) (left right : Value) :
    Loopless (compare relation left right) := by
  rw [compare.eq_def]
  split
  · exact .ok _
  · exact .ok _
  · split
    · exact .ok _
    · exact .error rfl

theorem isIn_loopless (needle haystack : Value) : Loopless (isIn needle haystack) := by
  rw [isIn.eq_def]
  split
  · exact .ok _
  · exact .ok _
  · exact .ok _
  · exact .error rfl

theorem items_loopless (v : Value) : Loopless v.items := by
  rw [items.eq_def]
  split
  · exact .ok _
  · exact .ok _
  · exact .ok _
  · exact .error rfl

theorem lookUp_loopless (key : String) (entries : List (String × Value)) :
    Loopless (lookUp key entries) := by
  rw [lookUp]
  split
  · exact .ok _
  · exact .error rfl

theorem index_loopless (target position : Value) : Loopless (index target position) := by
  rw [index.eq_def]
  split
  · split
    · exact .ok _
    · exact .error rfl
  · split
    · exact .ok _
    · exact .error rfl
  · exact lookUp_loopless _ _
  · exact .error rfl

theorem member_loopless (target : Value) (name : String) : Loopless (member target name) := by
  rw [member.eq_def]
  split
  · exact lookUp_loopless _ _
  · exact .error rfl

end Value

theorem UnaryOp.apply_loopless (op : UnaryOp) (v : Value) : Loopless (op.apply v) := by
  rw [UnaryOp.apply.eq_def]
  split
  · exact .ok _
  · exact Value.checked_loopless _ _
  · exact .ok _
  · exact .error rfl

theorem BinaryOp.apply_loopless (op : BinaryOp) (left right : Value) :
    Loopless (op.apply left right) := by
  cases op with
  | eq => exact .ok _
  | ne => exact .ok _
  | isIn => exact (Value.isIn_loopless left right).map _
  | compare relation => exact Value.compare_loopless relation left right
  | arith op => exact Value.arithmetic_loopless op left right

namespace Builtin

theorem single_loopless (b : Builtin) (args : List Value) : Loopless (b.single args) := by
  rw [single.eq_def]
  split
  · exact .ok _
  · exact .error rfl

theorem wholeNumber_loopless (b : Builtin) (v : Value) : Loopless (b.wholeNumber v) := by
  rw [wholeNumber.eq_def]
  split
  · exact .ok _
  · exact .error rfl

theorem characters_loopless (b : Builtin) (v : Value) : Loopless (b.characters v) := by
  rw [characters.eq_def]
  split
  · exact .ok _
  · exact .error rfl

theorem mapEntries_loopless (b : Builtin) (v : Value) : Loopless (b.mapEntries v) := by
  rw [mapEntries.eq_def]
  split
  · exact .ok _
  · exact .error rfl

theorem rangeArguments_loopless (args : List Value) : Loopless (rangeArguments args) := by
  have number := wholeNumber_loopless range
  rw [rangeArguments.eq_def]
  split
  · exact (number _).bind fun _ => .ok _
  · exact (number _).bind fun _ => (number _).bind fun _ => .ok _
  · exact (number _).bind fun _ => (number _).bind fun _ => (number _).bind fun _ => .ok _
  · exact .error rfl

theorem callRange_loopless (args : List Value) : Loopless (callRange args) := by
  refine (rangeArguments_loopless args).bind ?_
  rintro ⟨start, stop, step⟩
  dsimp only
  split
  · exact .error rfl
  · split
    · exact .error rfl
    · exact .ok _

theorem length_loopless (v : Value) : Loopless (Builtin.length v) := by
  rw [Builtin.length.eq_def]
  split
  · exact .ok _
  · exact .ok _
  · exact .ok _
  · exact .error rfl

theorem toInt_loopless (v : Value) : Loopless (Builtin.toInt v) := by
  have read (expected : String) (n : Option Value) : Loopless (toInt.expect v expected n) := by
    cases n with
    | some n => exact .ok n
    | none => exact .error rfl
  rw [Builtin.toInt.eq_def]
  split
  · exact .ok _
  · exact .ok _
  · exact read _ _
  · exact read _ _
  · exact .error rfl

theorem toFloat_loopless (v : Value) : Loopless (Builtin.toFloat v) := by
  rw [Builtin.toFloat.eq_def]
  split
  · exact .ok _
  · exact .ok _
  · exact .ok _
  · split
    · exact .ok _
    · exact .error rfl
  · exact .error rfl

theorem callJoin_loopless (args : List Value) : Loopless (callJoin args) := by
  rw [callJoin.eq_def]
  split
  · exact .ok _
  · exact (characters_loopless join _).bind fun _ => .ok _
  · exact (characters_loopless join _).bind fun _ => .ok _
  · exact .error rfl
  · exact .error rfl
  · exact .error rfl

theorem callSplit_loopless (args : List Value) : Loopless (callSplit args) := by
  have text := characters_loopless split
  rw [callSplit.eq_def]
  split
  · exact (text _).bind fun _ => .ok _
  · refine (text _).bind fun pattern => ?_
    split
    · exact .error rfl
    · exact (text _).bind fun _ => .ok _
  · exact .error rfl

theorem callReplace_loopless (args : List Value) : Loopless (callReplace args) := by
  have text := characters_loopless replace
  rw [callReplace.eq_def]
  split
  · refine (text _).bind fun pattern => ?_
    split
    · exact .error rfl
    · exact (text _).bind fun _ => (text _).bind fun _ => .ok _
  · exact .error rfl

theorem callDefault_loopless (args : List Value) : Loopless (callDefault args) := by
  rw [callDefault.eq_def]
  split
  · exact .ok _
  · exact .ok _
  · exact .error rfl

theorem call_loopless (b : Builtin) (args : List Value) : Loopless (b.call args) := by
  cases b with
  | range => exact callRange_loopless args
  | len => exact (single_loopless len args).bind length_loopless
  | str => exact (single_loopless str args).bind fun _ => .ok _
  | int => exact (single_loopless int args).bind toInt_loopless
  | float => exact (single_loopless float args).bind toFloat_loopless
  | upper => exact (single_loopless upper args).bind fun _ => .ok _
  | lower => exact (single_loopless lower args).bind fun _ => .ok _
  | trim => exact (single_loopless trim args).bind fun _ => .ok _
  | join => exact callJoin_loopless args
  | split => exact callSplit_loopless args
  | replace => exact callReplace_loopless args
  | default => exact callDefault_loopless args
  | keys =>
      exact (single_loopless keys args).bind fun v =>
        (mapEntries_loopless keys v).bind fun _ => .ok _
  | values =>
      exact (single_loopless values args).bind fun v =>
        (mapEntries_loopless values v).bind fun _ => .ok _

end Builtin

/-! ### Evaluations -/

namespace Eval

variable {α β : Type} {e : Eval α}

/-- An evaluation that does not stop for want of a loop. -/
def Loopless (e : Eval α) : Prop :=
  ∀ s failure t, e.outcome s = (.error (.failed failure), t) → failure.isOfLoop = false

namespace Loopless

theorem pure (a : α) : Loopless (Pure.pure a) := by
  intro s failure t ran
  cases ran

theorem fail {failure : Failure} (h : failure.isOfLoop = false) :
    Loopless (α := α) (throw (.failed failure)) := by
  intro s failure' t ran
  cases ran
  exact h

theorem ofExcept {r : Except Failure α} (h : Stencil.Loopless r) :
    Loopless (Eval.ofExcept r) := by
  cases r with
  | ok a => exact .pure a
  | error failure => exact .fail (h failure rfl)

theorem write (v : Value) : Loopless (Eval.write v) := by
  intro s failure t ran
  cases ran

theorem lookup (context : Context) (name : String) : Loopless (Eval.lookup context name) := by
  intro s failure t ran
  rw [outcome_lookup] at ran
  split at ran <;> cases ran

theorem bind {f : α → Eval β} (h : Loopless e) (next : ∀ a, Loopless (f a)) :
    Loopless (e >>= f) := by
  intro s failure t ran
  rw [outcome_bind] at ran
  split at ran
  · next a u first => exact next a u failure t ran
  · next stop u first =>
    cases ran
    exact h s failure t first

theorem orNone {e : Eval Value} (h : Loopless e) : Loopless (Eval.orNone e) := by
  intro s failure t ran
  rw [outcome_orNone] at ran
  split at ran
  · cases ran
  · next stop u first =>
    split at ran
    · cases ran
    · cases ran
      exact h s failure t first

theorem writeString (function : String) (v : Value) :
    Loopless (Eval.writeString function v) := by
  rw [Eval.writeString]
  split
  · exact .fail rfl
  · exact (write v).bind fun _ => .pure _

end Loopless

end Eval

section Evaluation

variable (context : Context)

mutual

/-- No evaluation stops for want of a loop. -/
theorem Expr.eval_loopless : ∀ e : Expr, (e.eval context).Loopless
  | .literal l => by
    rw [Expr.eval]
    exact .pure _
  | .list items => by
    rw [Expr.eval]
    exact (evalAll_loopless items).bind fun _ => .pure _
  | .var name => by
    rw [Expr.eval]
    exact .lookup context name
  | .unary op e => by
    rw [Expr.eval]
    exact e.eval_loopless.bind fun v => .ofExcept (op.apply_loopless v)
  | .connect op l r => by
    rw [Expr.eval]
    refine l.eval_loopless.bind fun v => ?_
    split
    · exact .pure v
    · exact r.eval_loopless
  | .binary op l r => by
    rw [Expr.eval]
    exact l.eval_loopless.bind fun _ => r.eval_loopless.bind fun _ =>
      .ofExcept (op.apply_loopless _ _)
  | .call function args => by
    rw [Expr.eval.eq_def]
    cases callee : Callee.ofName function with
    | write =>
        simp only [callee]
        exact (writeAll_loopless args).bind fun _ => .pure _
    | writeOne =>
        simp only [callee]
        match args with
        | [] => exact .fail rfl
        | [arg] =>
          exact arg.eval_loopless.bind fun v => (Eval.Loopless.write v).bind fun _ => .pure _
        | _ :: _ :: _ => exact .fail rfl
    | writeString =>
        simp only [callee]
        match args with
        | [] => exact .fail rfl
        | [arg] => exact arg.eval_loopless.bind fun v => .writeString function v
        | _ :: _ :: _ => exact .fail rfl
    | builtin b =>
        by_cases isDefault : b = .default
        · subst isDefault
          simp only [callee]
          match args with
          | [] => exact .ofExcept (Builtin.default.call_loopless _)
          | arg :: args =>
            exact arg.eval_loopless.orNone.bind fun _ => (evalAll_loopless args).bind fun _ =>
              .ofExcept (Builtin.default.call_loopless _)
        · simp only [callee]
          exact (evalAll_loopless args).bind fun _ => .ofExcept (b.call_loopless _)
    | unknown =>
        simp only [callee]
        exact (evalAll_loopless args).bind fun _ => .fail rfl
  | .index target position => by
    rw [Expr.eval]
    exact target.eval_loopless.bind fun _ => position.eval_loopless.bind fun _ =>
      .ofExcept (Value.index_loopless _ _)
  | .member target name => by
    rw [Expr.eval]
    exact target.eval_loopless.bind fun _ => .ofExcept (Value.member_loopless _ name)

theorem evalAll_loopless : ∀ es : List Expr, (evalAll context es).Loopless
  | [] => by
    rw [evalAll]
    exact .pure _
  | e :: es => by
    rw [evalAll]
    exact e.eval_loopless.bind fun _ => (evalAll_loopless es).bind fun _ => .pure _

theorem writeAll_loopless : ∀ es : List Expr, (writeAll context es).Loopless
  | [] => by
    rw [writeAll]
    exact .pure _
  | e :: es => by
    rw [writeAll]
    exact e.eval_loopless.bind fun v => (Eval.Loopless.write v).bind fun _ =>
      writeAll_loopless es

end

end Evaluation

end Stencil
