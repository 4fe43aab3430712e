import Stencil.Proofs.Render.Evaluation

/-!
# Evaluations that write nothing

An evaluation changes nothing but the output (`Expr.eval_writes`), and not even that unless it
calls a function that writes (`Expr.eval_quiet`). The calls of such a function can be told from the
expression alone, since what a name calls does not depend on the state.
-/

namespace Stencil

def outputFunctions : List String := ["emit", "write", "emit_value", "emit_literal"]

mutual

/-- The functions that an expression calls, at any depth. -/
def Expr.calls : Expr → List String
  | .literal _ => []
  | .list items => callsAll items
  | .var _ => []
  | .unary _ e => e.calls
  | .connect _ l r => l.calls ++ r.calls
  | .binary _ l r => l.calls ++ r.calls
  | .call function args => function :: callsAll args
  | .index target position => target.calls ++ position.calls
  | .member target _ => target.calls

def callsAll : List Expr → List String
  | [] => []
  | e :: es => e.calls ++ callsAll es

end

/-- Whether none of the functions writes. -/
def Silent (functions : List String) : Prop := ∀ f ∈ functions, f ∉ outputFunctions

@[simp] theorem silent_append {fs gs : List String} :
    Silent (fs ++ gs) ↔ Silent fs ∧ Silent gs :=
  List.forall_mem_append

@[simp] theorem silent_cons {f : String} {fs : List String} :
    Silent (f :: fs) ↔ f ∉ outputFunctions ∧ Silent fs :=
  List.forall_mem_cons

/-- A function that does not write computes a value, or does not exist. -/
theorem Callee.ofName_silent {function : String} (h : function ∉ outputFunctions) :
    (∃ b, ofName function = .builtin b) ∨ ofName function = .unknown := by
  simp only [outputFunctions, List.mem_cons, List.not_mem_nil, or_false, not_or] at h
  obtain ⟨notEmit, notWrite, notValue, notLiteral⟩ := h
  simp only [ofName, notEmit, notWrite, notValue, notLiteral, or_self, if_false]
  cases Builtin.ofName? function with
  | some b => exact .inl ⟨b, rfl⟩
  | none => exact .inr rfl

namespace Eval

variable {α β : Type} {e : Eval α} {s : State}

/-- An evaluation that leaves the state as it is, however it ends. -/
def Quiet (e : Eval α) : Prop := ∀ s, (e.outcome s).2 = s

namespace Quiet

theorem pure (a : α) : Quiet (Pure.pure a) := fun _ => rfl

theorem throw (stop : Stop) : Quiet (α := α) (MonadExcept.throw stop) := fun _ => rfl

theorem ofExcept (r : Except Failure α) : Quiet (Eval.ofExcept r) := by
  cases r with
  | ok a => exact .pure a
  | error failure => exact .throw _

theorem lookup (context : Context) (name : String) : Quiet (Eval.lookup context name) := by
  intro s
  rw [outcome_lookup]
  split <;> rfl

theorem bind {f : α → Eval β} (h : Quiet e) (next : ∀ a, Quiet (f a)) : Quiet (e >>= f) := by
  intro s
  have first := h s
  rw [outcome_bind]
  cases ran : e.outcome s with
  | mk result t =>
      obtain rfl : t = s := by rw [ran] at first; exact first
      cases result with
      | ok a => exact next a t
      | error stop => rfl

theorem orNone {e : Eval Value} (h : Quiet e) : Quiet (Eval.orNone e) := by
  intro s
  have first := h s
  rw [outcome_orNone]
  cases ran : e.outcome s with
  | mk result t =>
      obtain rfl : t = s := by rw [ran] at first; exact first
      cases result <;> rfl

end Quiet

end Eval

section Evaluation

variable {context : Context}

mutual

/-- An expression that calls no function that writes leaves the state as it is. -/
theorem Expr.eval_quiet : ∀ {e : Expr}, Silent e.calls → (e.eval context).Quiet
  | .literal l, _ => by
    rw [Expr.eval]
    exact .pure _
  | .list items, silent => by
    rw [Expr.eval]
    exact (evalAll_quiet silent).bind fun _ => .pure _
  | .var name, _ => by
    rw [Expr.eval]
    exact .lookup context name
  | .unary op e, silent => by
    rw [Expr.eval]
    exact (Expr.eval_quiet (e := e) silent).bind fun _ => .ofExcept _
  | .connect op l r, silent => by
    rw [Expr.calls, silent_append] at silent
    rw [Expr.eval]
    refine (Expr.eval_quiet silent.1).bind ?_
    intro v
    by_cases decided : op.decidedBy v
    · simp only [decided, if_true]
      exact .pure v
    · simp only [decided]
      exact Expr.eval_quiet silent.2
  | .binary op l r, silent => by
    rw [Expr.calls, silent_append] at silent
    rw [Expr.eval]
    exact (Expr.eval_quiet silent.1).bind fun _ =>
      (Expr.eval_quiet silent.2).bind fun _ => .ofExcept _
  | .call function args, silent => by
    rw [Expr.calls, silent_cons] at silent
    rcases Callee.ofName_silent silent.1 with ⟨b, callee⟩ | callee
    · by_cases isDefault : b = .default
      · subst isDefault
        obtain rfl := Callee.eq_name_of_ofName callee
        cases args with
        | nil =>
            rw [Expr.eval.eq_def]
            simp only [callee]
            exact .ofExcept _
        | cons arg args =>
            rw [callsAll, silent_append] at silent
            rw [Expr.eval_default]
            exact (Expr.eval_quiet silent.2.1).orNone.bind fun _ =>
              (evalAll_quiet silent.2.2).bind fun _ => .ofExcept _
      · rw [Expr.eval_builtin callee isDefault]
        exact (evalAll_quiet silent.2).bind fun _ => .ofExcept _
    · rw [Expr.eval.eq_def]
      simp only [callee]
      exact (evalAll_quiet silent.2).bind fun _ => .throw _
  | .index target position, silent => by
    rw [Expr.calls, silent_append] at silent
    rw [Expr.eval]
    exact (Expr.eval_quiet silent.1).bind fun _ =>
      (Expr.eval_quiet silent.2).bind fun _ => .ofExcept _
  | .member target name, silent => by
    rw [Expr.eval]
    exact (Expr.eval_quiet (e := target) silent).bind fun _ => .ofExcept _

theorem evalAll_quiet : ∀ {es : List Expr}, Silent (callsAll es) → (evalAll context es).Quiet
  | [], _ => by
    rw [evalAll]
    exact .pure _
  | e :: es, silent => by
    rw [callsAll, silent_append] at silent
    rw [evalAll]
    exact (Expr.eval_quiet silent.1).bind fun _ =>
      (evalAll_quiet silent.2).bind fun _ => .pure _

end

/-- An evaluation appends to the output and changes nothing else. -/
theorem Expr.eval_writes (e : Expr) (s : State) :
    ∃ result text, (e.eval context).outcome s = (result, s.write text) := by
  have same : SameOn context context s s (e.reads ++ e.optional) := fun _ _ => rfl
  obtain ⟨result, text, ran, -, -⟩ := e.eval_lockstep same
  exact ⟨result, text, ran⟩

end Evaluation

end Stencil
