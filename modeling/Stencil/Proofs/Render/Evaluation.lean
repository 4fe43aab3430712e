import Stencil.FreeNames
import Stencil.Proofs.Render.Agreement
import Stencil.Proofs.Render.Lockstep

/-!
# What an evaluation depends on

The names that an expression reads, together with those that it reads only if they are bound, decide
what it comes to: in two states in which these names mean the same, its value and what it writes are
the same (`Expr.eval_lockstep`). If the evaluation stops at an unbound name, that is one of the
names that it reads; it is never one of those that it can do without.
-/

namespace Stencil

mutual

/-- The names that an expression reads if they are bound, and else does without: those that stand
directly as the first argument of `default`. -/
def Expr.optional : Expr → List String
  | .literal _ => []
  | .list items => optionalAll items
  | .var _ => []
  | .unary _ e => e.optional
  | .connect _ l r => l.optional ++ r.optional
  | .binary _ l r => l.optional ++ r.optional
  | .call function (.var name :: args) =>
    if function = Builtin.default.name then name :: optionalAll args else optionalAll args
  | .call _ args => optionalAll args
  | .index target position => target.optional ++ position.optional
  | .member target _ => target.optional

def optionalAll : List Expr → List String
  | [] => []
  | e :: es => e.optional ++ optionalAll es

end

namespace Callee

theorem eq_name_of_ofName {function : String} {b : Builtin}
    (h : ofName function = .builtin b) : function = b.name := by
  simp only [ofName] at h
  split at h
  · cases h
  · split at h
    · cases h
    · split at h
      · cases h
      · split at h
        · next found =>
          cases h
          have named := List.find?_some found
          simpa using (beq_iff_eq.1 named).symm
        · cases h

theorem ofName_default : ofName Builtin.default.name = .builtin .default := by decide

end Callee

theorem Expr.reads_call {function : String} (h : function ≠ Builtin.default.name)
    (args : List Expr) : (Expr.call function args).reads = readsAll args := by
  cases args with
  | nil => rfl
  | cons arg args => cases arg <;> simp [Expr.reads, readsAll, h]

theorem Expr.optional_call {function : String} (h : function ≠ Builtin.default.name)
    (args : List Expr) : (Expr.call function args).optional = optionalAll args := by
  cases args with
  | nil => rfl
  | cons arg args => cases arg <;> simp [Expr.optional, optionalAll, h]

/-- A call of `default` concerns the names of all its arguments. -/
theorem Expr.names_default (arg : Expr) (args : List Expr) :
    arg.reads ++ arg.optional ++ (readsAll args ++ optionalAll args) ⊆
      (Expr.call Builtin.default.name (arg :: args)).reads ++
        (Expr.call Builtin.default.name (arg :: args)).optional := by
  cases arg <;> grind [Expr.reads, Expr.optional, readsAll, optionalAll]

theorem Expr.readsAll_subset_default (arg : Expr) (args : List Expr) :
    readsAll args ⊆ (Expr.call Builtin.default.name (arg :: args)).reads := by
  cases arg <;> grind [Expr.reads, readsAll]

theorem Expr.eval_builtin {function : String} {b : Builtin}
    (callee : Callee.ofName function = .builtin b) (h : b ≠ .default) (context : Context)
    (args : List Expr) :
    (Expr.call function args).eval context =
      (do Eval.ofExcept (b.call (← evalAll context args))) := by
  rw [Expr.eval.eq_def]
  simp only [callee]

theorem Expr.eval_default (context : Context) (arg : Expr) (args : List Expr) :
    (Expr.call Builtin.default.name (arg :: args)).eval context =
      (do
        let v ← Eval.orNone (arg.eval context)
        Eval.ofExcept (Builtin.default.call (v :: (← evalAll context args)))) := by
  rw [Expr.eval.eq_def]
  simp only [Callee.ofName_default]

def State.value? (context : Context) (s : State) (name : String) : Option Value :=
  s.scopes.find? name <|> context.find? name

/-- If a run stops at an unbound name, then at one of these, and in this state it is unbound. -/
def StopsAt (context : Context) (s : State) (names : List String) (stop : Stop) : Prop :=
  ∀ n, stop = .unbound n → n ∈ names ∧ s.value? context n = none

section Evaluation

variable {context₁ context₂ : Context} {s₁ s₂ : State}

/-- Some names mean the same in two states. -/
def SameOn (context₁ context₂ : Context) (s₁ s₂ : State) (names : List String) : Prop :=
  ∀ n ∈ names, s₁.value? context₁ n = s₂.value? context₂ n

theorem SameOn.mono {names names' : List String} (h : SameOn context₁ context₂ s₁ s₂ names)
    (less : names' ⊆ names) : SameOn context₁ context₂ s₁ s₂ names' :=
  fun n hn => h n (less hn)

/-- Writing does not change what names mean. -/
theorem SameOn.write {names : List String} (h : SameOn context₁ context₂ s₁ s₂ names)
    (text : String) : SameOn context₁ context₂ (s₁.write text) (s₂.write text) names := h

theorem StopsAt.mono {names names' : List String} {stop : Stop}
    (h : StopsAt context₁ s₁ names stop) (more : names ⊆ names') :
    StopsAt context₁ s₁ names' stop :=
  fun n eq => ⟨more (h n eq).1, (h n eq).2⟩

theorem stopsAt_failed (names : List String) (failure : Failure) :
    StopsAt context₁ s₁ names (.failed failure) := by
  intro n eq
  cases eq

/-- Two operands are evaluated in order, before anything is done with their values. -/
theorem Eval.Lockstep.both {α β γ : Type} {l₁ l₂ : Eval α} {r₁ r₂ : Eval β}
    {k : α → β → Eval γ} {first second : List String}
    (left : Eval.Lockstep l₁ l₂ s₁ s₂ (StopsAt context₁ s₁ first))
    (right : ∀ text, Eval.Lockstep r₁ r₂ (s₁.write text) (s₂.write text)
      (StopsAt context₁ s₁ second))
    (last : ∀ a b (t₁ t₂ : State), Eval.Lockstep (k a b) (k a b) t₁ t₂
      (StopsAt context₁ s₁ (first ++ second))) :
    Eval.Lockstep (l₁ >>= fun a => r₁ >>= k a) (l₂ >>= fun a => r₂ >>= k a) s₁ s₂
      (StopsAt context₁ s₁ (first ++ second)) := by
  refine (left.mono fun _ h => h.mono (by simp)).bind ?_
  intro a text
  refine ((right text).mono fun _ h => h.mono (by simp)).bind ?_
  intro b text'
  exact last a b _ _

/-- An evaluation that can do without what is missing does not stop at an unbound name. -/
theorem Eval.Lockstep.orNone_stopsAt {e₁ e₂ : Eval Value} {names : List String}
    (h : Eval.Lockstep e₁ e₂ s₁ s₂ (StopsAt context₁ s₁ names)) (names' : List String) :
    Eval.Lockstep (Eval.orNone e₁) (Eval.orNone e₂) s₁ s₂ (StopsAt context₁ s₁ names') := by
  refine h.orNone.mono ?_
  rintro stop ⟨-, present⟩ n rfl
  simp [Eval.isMissing] at present

mutual

/-- An expression has the same value, and writes the same, in states in which the names that it
reads mean the same. -/
theorem Expr.eval_lockstep {s₁ s₂ : State} : ∀ (e : Expr),
    SameOn context₁ context₂ s₁ s₂ (e.reads ++ e.optional) →
    Eval.Lockstep (e.eval context₁) (e.eval context₂) s₁ s₂ (StopsAt context₁ s₁ e.reads)
  | .literal l, _ => by
    rw [Expr.eval, Expr.eval]
    exact .pure _
  | .list items, same => by
    rw [Expr.eval, Expr.eval, Expr.reads]
    exact (evalAll_lockstep items same).bind fun vs _ => .pure _
  | .var name, same => by
    rw [Expr.eval, Expr.eval]
    refine .lookup (same name (by simp [Expr.reads])) ?_
    intro unbound n eq
    cases eq
    exact ⟨by simp [Expr.reads], unbound⟩
  | .unary op e, same => by
    rw [Expr.eval, Expr.eval, Expr.reads]
    exact (e.eval_lockstep same).bind fun v _ => .ofExcept (stopsAt_failed _) _
  | .connect op l r, same => by
    rw [Expr.eval, Expr.eval]
    have left := l.eval_lockstep (same.mono (by grind [Expr.reads, Expr.optional]))
    refine (left.mono fun _ h => h.mono (by simp [Expr.reads])).bind ?_
    intro v text
    by_cases decided : op.decidedBy v
    · simp only [decided, if_true]
      exact .pure v
    · simp only [decided]
      have right := r.eval_lockstep
        ((same.mono (by grind [Expr.reads, Expr.optional])).write text)
      exact right.mono fun _ h => h.mono (by simp [Expr.reads])
  | .binary op l r, same => by
    rw [Expr.eval, Expr.eval, Expr.reads]
    refine .both (l.eval_lockstep (same.mono (by grind [Expr.reads, Expr.optional]))) ?_
      fun v w _ _ => .ofExcept (stopsAt_failed _) _
    intro text
    exact r.eval_lockstep ((same.mono (by grind [Expr.reads, Expr.optional])).write text)
  | .call function args, same => by
    by_cases isDefault : function = Builtin.default.name
    · subst isDefault
      cases args with
      | nil =>
          rw [Expr.eval.eq_def, Expr.eval.eq_def]
          simp only [Callee.ofName_default]
          exact .ofExcept (stopsAt_failed _) _
      | cons arg args =>
          have covered := List.append_subset.1 (Expr.names_default arg args)
          rw [Expr.eval_default, Expr.eval_default]
          refine ((arg.eval_lockstep (same.mono covered.1)).orNone_stopsAt _).bind ?_
          intro v text
          have rest := evalAll_lockstep args ((same.mono covered.2).write text)
          exact (rest.mono fun _ h => h.mono (Expr.readsAll_subset_default arg args)).bind
            fun vs _ => .ofExcept (stopsAt_failed _) _
    · rw [Expr.reads_call isDefault] at same ⊢
      rw [Expr.optional_call isDefault] at same
      cases callee : Callee.ofName function with
      | write =>
          rw [Expr.eval.eq_def, Expr.eval.eq_def]
          simp only [callee]
          exact (writeAll_lockstep args same).bind fun _ _ => .pure _
      | writeOne =>
          rw [Expr.eval.eq_def, Expr.eval.eq_def]
          simp only [callee]
          match args with
          | [] => exact .throw (stopsAt_failed _ _)
          | [arg] =>
            have one := arg.eval_lockstep (same.mono (by simp [readsAll, optionalAll]))
            refine (one.mono fun _ h => h.mono (by simp [readsAll])).bind ?_
            intro v text
            exact (Eval.Lockstep.write v).bind fun _ _ => .pure _
          | _ :: _ :: _ => exact .throw (stopsAt_failed _ _)
      | writeString =>
          rw [Expr.eval.eq_def, Expr.eval.eq_def]
          simp only [callee]
          match args with
          | [] => exact .throw (stopsAt_failed _ _)
          | [arg] =>
            have one := arg.eval_lockstep (same.mono (by simp [readsAll, optionalAll]))
            refine (one.mono fun _ h => h.mono (by simp [readsAll])).bind ?_
            intro v text
            exact .writeString (stopsAt_failed _) function v
          | _ :: _ :: _ => exact .throw (stopsAt_failed _ _)
      | builtin b =>
          have notDefault : b ≠ .default := by
            rintro rfl
            exact isDefault (Callee.eq_name_of_ofName callee)
          rw [Expr.eval_builtin callee notDefault, Expr.eval_builtin callee notDefault]
          exact (evalAll_lockstep args same).bind fun vs _ => .ofExcept (stopsAt_failed _) _
      | unknown =>
          rw [Expr.eval.eq_def, Expr.eval.eq_def]
          simp only [callee]
          exact (evalAll_lockstep args same).bind fun vs _ => .throw (stopsAt_failed _ _)
  | .index target position, same => by
    rw [Expr.eval, Expr.eval, Expr.reads]
    refine .both (target.eval_lockstep (same.mono (by grind [Expr.reads, Expr.optional]))) ?_
      fun v w _ _ => .ofExcept (stopsAt_failed _) _
    intro text
    exact position.eval_lockstep ((same.mono (by grind [Expr.reads, Expr.optional])).write text)
  | .member target name, same => by
    rw [Expr.eval, Expr.eval, Expr.reads]
    exact (target.eval_lockstep same).bind fun v _ => .ofExcept (stopsAt_failed _) _

theorem evalAll_lockstep {s₁ s₂ : State} : ∀ (es : List Expr),
    SameOn context₁ context₂ s₁ s₂ (readsAll es ++ optionalAll es) →
    Eval.Lockstep (evalAll context₁ es) (evalAll context₂ es) s₁ s₂
      (StopsAt context₁ s₁ (readsAll es))
  | [], _ => by
    rw [evalAll, evalAll]
    exact .pure _
  | e :: es, same => by
    rw [evalAll, evalAll]
    have first := e.eval_lockstep (same.mono (by grind [readsAll, optionalAll]))
    refine (first.mono fun _ h => h.mono (by simp [readsAll])).bind ?_
    intro v text
    have rest := evalAll_lockstep es
      ((same.mono (by grind [readsAll, optionalAll])).write text)
    exact (rest.mono fun _ h => h.mono (by simp [readsAll])).bind fun vs _ => .pure _

theorem writeAll_lockstep {s₁ s₂ : State} : ∀ (es : List Expr),
    SameOn context₁ context₂ s₁ s₂ (readsAll es ++ optionalAll es) →
    Eval.Lockstep (writeAll context₁ es) (writeAll context₂ es) s₁ s₂
      (StopsAt context₁ s₁ (readsAll es))
  | [], _ => by
    rw [writeAll, writeAll]
    exact .pure _
  | e :: es, same => by
    rw [writeAll, writeAll]
    have first := e.eval_lockstep (same.mono (by grind [readsAll, optionalAll]))
    refine (first.mono fun _ h => h.mono (by simp [readsAll])).bind ?_
    intro v text
    refine (Eval.Lockstep.write v).bind ?_
    intro _ text'
    have rest := writeAll_lockstep es
      (((same.mono (by grind [readsAll, optionalAll])).write text).write text')
    exact rest.mono fun _ h => h.mono (by simp [readsAll])

end

end Evaluation

end Stencil
