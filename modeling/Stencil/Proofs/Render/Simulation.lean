import Stencil.Proofs.Render.Agreement
import Stencil.Proofs.Render.Evaluation
import Stencil.Template

/-!
# Two runs of the same statements

The names that a program reads without binding them, together with those that it reads only if they
are bound, decide what a render can find out about its context. `runBlock_lockstep` runs statements
twice, from states that agree on these names: both runs do the same, and if they stop at an unbound
name, the walk over the statements has listed it and neither a scope nor the context binds it.

The walk sees a body once, however often it is run. What carries the proof is that the names known
outside of a body stay known: the states agree again after each round.
-/

namespace Stencil

mutual

/-- The optional names of the expressions of a statement. -/
def Stmt.optional : Stmt → List String
  | .emitText _ => []
  | .emit e => e.optional
  | .declare _ value => value.optional
  | .assign _ _ value => value.optional
  | .expr e => e.optional
  | .branch cond body otherwise => cond.optional ++ blockOptional body ++ otherwise.optional
  | .forLoop _ iterable body => iterable.optional ++ blockOptional body
  | .whileLoop cond body => cond.optional ++ blockOptional body
  | .breakLoop => []
  | .continueLoop => []

def Else.optional : Else → List String
  | .nothing => []
  | .block body => blockOptional body
  | .elif cond body otherwise => cond.optional ++ blockOptional body ++ otherwise.optional

def blockOptional : List Stmt → List String
  | [] => []
  | s :: ss => s.optional ++ blockOptional ss

end

/-- If a run stops at an unbound name, then at one of these, and none that is known to be bound. -/
def Unlisted (levels : List (List String)) (names : List String) (stop : Stop) : Prop :=
  ∀ n, stop = .unbound n → n ∈ names ∧ n ∉ levels.flatten

/-- What a piece of program reads is covered: the names taken for bound are known to be, and its
free and its optional names are shared. -/
structure Covered (shared : String → Prop) (levels : List (List String))
    (bound free optional : List String) : Prop where
  bound : bound ⊆ levels.flatten
  free : ∀ n ∈ free, shared n
  optional : ∀ n ∈ optional, shared n

section Names

variable {shared : String → Prop} {levels : List (List String)} {bound names : List String}

theorem Unlisted.mono {names' : List String} {stop : Stop} (h : Unlisted levels names stop)
    (more : names ⊆ names') : Unlisted levels names' stop :=
  fun n eq => ⟨more (h n eq).1, (h n eq).2⟩

/-- What is not known inside of a body is not known outside of it. -/
theorem Unlisted.leave {known : List String} {stop : Stop}
    (h : Unlisted (known :: levels) names stop) : Unlisted levels names stop := by
  intro n eq
  refine ⟨(h n eq).1, ?_⟩
  intro outside
  exact (h n eq).2 (by simp [outside])

theorem unlisted_failed (names : List String) (failure : Failure) :
    Unlisted levels names (.failed failure) := by
  intro n eq
  cases eq

theorem mem_unboundIn {n : String} : n ∈ unboundIn bound names ↔ n ∈ names ∧ n ∉ bound := by
  simp [unboundIn]

theorem Covered.mono {free free' optional optional' : List String}
    (h : Covered shared levels bound free optional) (lessFree : free' ⊆ free)
    (lessOptional : optional' ⊆ optional) : Covered shared levels bound free' optional' :=
  ⟨h.bound, fun n hn => h.free n (lessFree hn), fun n hn => h.optional n (lessOptional hn)⟩

/-- A body has a level of its own, at which its first bindings are known. -/
theorem Covered.enter {free optional : List String} (h : Covered shared levels bound free optional)
    (known : List String) : Covered shared (known :: levels) bound free optional := by
  refine ⟨?_, h.free, h.optional⟩
  intro n hn
  simp [h.bound hn]

/-- What a statement binds is known after it. -/
theorem Covered.bind {known : List String} {free optional : List String}
    (h : Covered shared (known :: levels) bound free optional) (binds : List String) :
    Covered shared ((binds ++ known) :: levels) (binds ++ bound) free optional := by
  refine ⟨?_, h.free, h.optional⟩
  intro n hn
  rcases List.mem_append.1 hn with here | before
  · simp [here]
  · have isKnown := h.bound before
    simp only [List.flatten_cons, List.mem_append] at isKnown ⊢
    rcases isKnown with isKnown | isKnown
    · exact .inl (.inr isKnown)
    · exact .inr isKnown

/-- What is not known after a statement was not known before it. -/
theorem Unlisted.forget {known binds : List String} {stop : Stop}
    (h : Unlisted ((binds ++ known) :: levels) names stop) :
    Unlisted (known :: levels) names stop := by
  intro n eq
  refine ⟨(h n eq).1, ?_⟩
  intro before
  apply (h n eq).2
  simp only [List.flatten_cons, List.mem_append] at before ⊢
  exact before.imp .inr id

end Names

section Lockstep

variable {shared : String → Prop} {levels outer : List (List String)}
variable {known bound names : List String} {context₁ context₂ : Context} {s₁ s₂ : State}

theorem State.Alike.sameOn {optional : List String}
    (alike : State.Alike shared levels context₁ context₂ s₁ s₂)
    (covered : Covered shared levels bound (unboundIn bound names) optional) :
    SameOn context₁ context₂ s₁ s₂ (names ++ optional) := by
  intro n hn
  rw [State.value?, State.value?, ← Scopes.find?_layers, ← Scopes.find?_layers]
  refine alike.layers.find?_eq ?_
  rcases List.mem_append.1 hn with read | hoptional
  · by_cases isBound : n ∈ bound
    · exact .inr (covered.bound isBound)
    · exact .inl (covered.free n (mem_unboundIn.2 ⟨read, isBound⟩))
  · exact .inl (covered.optional n hoptional)

theorem State.Alike.unlisted (alike : State.Alike shared levels context₁ context₂ s₁ s₂)
    (hbound : bound ⊆ levels.flatten) {stop : Stop} (h : StopsAt context₁ s₁ names stop) :
    Unlisted levels (unboundIn bound names) stop := by
  intro n eq
  obtain ⟨read, unbound⟩ := h n eq
  have unknown : n ∉ levels.flatten := by
    intro isKnown
    have isBound := alike.layers.isSome_find? isKnown
    rw [Scopes.find?_layers] at isBound
    rw [State.value?] at unbound
    simp [unbound] at isBound
  exact ⟨mem_unboundIn.2 ⟨read, fun isBound => unknown (hbound isBound)⟩, unknown⟩

/-- The relation between two runs that cannot be told apart, as a postcondition. -/
abbrev KeepsAlike {α : Type} (shared : String → Prop) (levels : List (List String))
    (context₁ context₂ : Context) (names : List String) :
    Except Stop α → State → State → Prop :=
  Run.Keeps (State.Alike shared levels context₁ context₂) (Unlisted levels names)

/-- Evaluations that depend on covered names only keep the states alike. -/
theorem Run.Lockstep.ofEval_alike {α : Type} {e₁ e₂ : Eval α}
    (alike : State.Alike shared levels context₁ context₂ s₁ s₂) (hbound : bound ⊆ levels.flatten)
    (h : Eval.Lockstep e₁ e₂ s₁ s₂ (StopsAt context₁ s₁ names)) :
    Run.Lockstep (Run.ofEval e₁) (Run.ofEval e₂) s₁ s₂
      (KeepsAlike shared levels context₁ context₂ (unboundIn bound names)) := by
  refine .ofEval h ?_
  intro result text stops
  exact ⟨alike.write text, fun stop eq => alike.unlisted hbound (stops stop eq)⟩

theorem Expr.run_lockstep (e : Expr)
    (alike : State.Alike shared levels context₁ context₂ s₁ s₂)
    (covered : Covered shared levels bound (unboundIn bound e.reads) e.optional) :
    Run.Lockstep (Run.ofEval (e.eval context₁)) (Run.ofEval (e.eval context₂)) s₁ s₂
      (KeepsAlike shared levels context₁ context₂ (unboundIn bound e.reads)) :=
  .ofEval_alike alike covered.bound (e.eval_lockstep (alike.sameOn covered))

/-- A body in a scope of its own. -/
theorem Run.Lockstep.inScope_alike {body₁ body₂ : Run Flow} {scope : Bindings}
    (alike : State.Alike shared levels context₁ context₂ s₁ s₂) (inside : levels ≠ [])
    (binds : ∀ n ∈ known, (scope.find? n).isSome)
    (body : ∀ t₁ t₂, State.Alike shared (known :: levels) context₁ context₂ t₁ t₂ →
      Run.Lockstep body₁ body₂ t₁ t₂
        (KeepsAlike shared (known :: levels) context₁ context₂ names)) :
    Run.Lockstep (Run.inScope scope body₁) (Run.inScope scope body₂) s₁ s₂
      (KeepsAlike shared levels context₁ context₂ names) := by
  refine .inScope ((body _ _ (alike.push scope binds)).mono ?_)
  intro result t₁ t₂ ended
  exact ⟨ended.1.pop inside, fun stop eq => (ended.2 stop eq).leave⟩

/-- A body that starts without bindings of its own. -/
theorem Run.Lockstep.inBody_alike {body₁ body₂ : Run Flow}
    (alike : State.Alike shared levels context₁ context₂ s₁ s₂) (inside : levels ≠ [])
    (body : ∀ t₁ t₂, State.Alike shared ([] :: levels) context₁ context₂ t₁ t₂ →
      Run.Lockstep body₁ body₂ t₁ t₂
        (KeepsAlike shared ([] :: levels) context₁ context₂ names)) :
    Run.Lockstep (Run.inScope .empty body₁) (Run.inScope .empty body₂) s₁ s₂
      (KeepsAlike shared levels context₁ context₂ names) :=
  .inScope_alike alike inside (by simp) body

theorem Run.Lockstep.inLoop_alike {loop₁ loop₂ : Run Unit}
    (alike : State.Alike shared levels context₁ context₂ s₁ s₂)
    (loop : ∀ t₁ t₂, State.Alike shared levels context₁ context₂ t₁ t₂ →
      Run.Lockstep loop₁ loop₂ t₁ t₂ (KeepsAlike shared levels context₁ context₂ names)) :
    Run.Lockstep (Run.inLoop loop₁) (Run.inLoop loop₂) s₁ s₂
      (KeepsAlike shared levels context₁ context₂ names) := by
  refine .inLoop ((loop _ _ (alike.loops_map (· + 1))).mono ?_)
  intro result t₁ t₂ ended
  exact ⟨ended.1.loops_map (· - 1), ended.2⟩

/-- What is known after a statement that ends normally: what it binds, in addition. -/
def Ran (shared : String → Prop) (known : List String) (outer : List (List String))
    (context₁ context₂ : Context) (binds names : List String) (result : Except Stop Flow)
    (t₁ t₂ : State) : Prop :=
  KeepsAlike shared (known :: outer) context₁ context₂ names result t₁ t₂ ∧
    (result = .ok .normal → State.Alike shared ((binds ++ known) :: outer) context₁ context₂ t₁ t₂)

/-- A statement that binds nothing. -/
theorem Run.Lockstep.ran {r₁ r₂ : Run Flow}
    (h : Run.Lockstep r₁ r₂ s₁ s₂ (KeepsAlike shared (known :: outer) context₁ context₂ names)) :
    Run.Lockstep r₁ r₂ s₁ s₂ (Ran shared known outer context₁ context₂ [] names) :=
  h.mono fun _ _ _ ended => ⟨ended, fun _ => ended.1⟩

/-- A statement that stops has bound nothing. -/
theorem Ran.error {α : Type} {binds : List String} {stop : Stop} {t₁ t₂ : State}
    (h : KeepsAlike (α := α) shared (known :: outer) context₁ context₂ names (.error stop) t₁ t₂) :
    Ran shared known outer context₁ context₂ binds names (.error stop) t₁ t₂ :=
  ⟨h.error, by simp⟩

theorem Ran.normal {binds : List String} {t₁ t₂ : State}
    (h : State.Alike shared ((binds ++ known) :: outer) context₁ context₂ t₁ t₂) :
    Ran shared known outer context₁ context₂ binds names (.ok .normal) t₁ t₂ :=
  ⟨.ok (h.mono fun n hn => by simp [hn]), fun _ => h⟩

/-- A statement that ends with a change of the state. -/
theorem Run.Lockstep.modify_ran {f₁ f₂ : State → State} {binds : List String}
    (h : State.Alike shared ((binds ++ known) :: outer) context₁ context₂ (f₁ s₁) (f₂ s₂)) :
    Run.Lockstep (do modify f₁; return .normal) (do modify f₂; return .normal) s₁ s₂
      (Ran shared known outer context₁ context₂ binds names) :=
  Run.SameEnd.some (Ran.normal h)

theorem Run.Lockstep.more {α : Type} {r₁ r₂ : Run α} {names' : List String}
    (h : Run.Lockstep r₁ r₂ s₁ s₂ (KeepsAlike shared levels context₁ context₂ names))
    (more : names ⊆ names') :
    Run.Lockstep r₁ r₂ s₁ s₂ (KeepsAlike shared levels context₁ context₂ names') :=
  h.mono fun _ _ _ ended => ⟨ended.1, fun stop eq => (ended.2 stop eq).mono more⟩

/-- A condition and the two ways to go on after it. -/
theorem Run.Lockstep.branch {cond₁ cond₂ : Run Value} {yes₁ yes₂ no₁ no₂ : Run Flow}
    {first second third : List String}
    (cond : Run.Lockstep cond₁ cond₂ s₁ s₂ (KeepsAlike shared levels context₁ context₂ first))
    (yes : ∀ t₁ t₂, State.Alike shared levels context₁ context₂ t₁ t₂ →
      Run.Lockstep yes₁ yes₂ t₁ t₂ (KeepsAlike shared levels context₁ context₂ second))
    (no : ∀ t₁ t₂, State.Alike shared levels context₁ context₂ t₁ t₂ →
      Run.Lockstep no₁ no₂ t₁ t₂ (KeepsAlike shared levels context₁ context₂ third)) :
    Run.Lockstep (do if (← cond₁).truthy then yes₁ else no₁)
      (do if (← cond₂).truthy then yes₂ else no₂) s₁ s₂
      (KeepsAlike shared levels context₁ context₂ (first ++ second ++ third)) := by
  refine (cond.more (by simp)).bind ?_ fun _ _ _ ended => ended.error
  intro v t₁ t₂ ended
  by_cases holds : v.truthy
  · simp only [if_pos holds]
    exact (yes t₁ t₂ ended.1).more (by simp)
  · simp only [if_neg holds]
    exact (no t₁ t₂ ended.1).more (by simp)

/-- The new value of a name depends on the old one only if the assignment combines the two. -/
theorem assigned_lockstep {name : String} {op : AssignOp} {e : Expr}
    (same : SameOn context₁ context₂ s₁ s₂
      ((e.reads ++ if op = .set then [] else [name]) ++ e.optional)) :
    Eval.Lockstep (e.eval context₁ >>= Run.assigned context₁ name op)
      (e.eval context₂ >>= Run.assigned context₂ name op) s₁ s₂
      (StopsAt context₁ s₁ (e.reads ++ if op = .set then [] else [name])) := by
  have value := e.eval_lockstep (same.mono (by simp))
  refine (value.mono fun _ h => h.mono (by simp)).bind ?_
  intro v text
  have combined (operator : BinaryOp) (h : op ≠ .set) :
      Eval.Lockstep
        (do let old ← Eval.lookup context₁ name; Eval.ofExcept (operator.apply old v))
        (do let old ← Eval.lookup context₂ name; Eval.ofExcept (operator.apply old v))
        (s₁.write text) (s₂.write text)
        (StopsAt context₁ s₁ (e.reads ++ if op = .set then [] else [name])) := by
    have looked : Eval.Lockstep (Eval.lookup context₁ name) (Eval.lookup context₂ name)
        (s₁.write text) (s₂.write text)
        (StopsAt context₁ s₁ (e.reads ++ if op = .set then [] else [name])) := by
      refine .lookup (same name (by simp [h])) ?_
      intro unbound n eq
      cases eq
      exact ⟨by simp [h], unbound⟩
    exact looked.bind fun old _ => .ofExcept (stopsAt_failed _) _
  cases op with
  | set => exact .pure v
  | add => exact combined _ (by decide)
  | sub => exact combined _ (by decide)

variable {limit : Nat}

mutual

/-- A statement run in two states that agree on its names does the same in both, and makes known
what it binds. -/
theorem Stmt.run_lockstep {known bound : List String} {outer : List (List String)}
    {s₁ s₂ : State} : ∀ (s : Stmt),
    State.Alike shared (known :: outer) context₁ context₂ s₁ s₂ →
    Covered shared (known :: outer) bound (s.freeNames bound) s.optional →
    Run.Lockstep (s.run context₁ limit) (s.run context₂ limit) s₁ s₂
      (Ran shared known outer context₁ context₂ s.binds (s.freeNames bound))
  | .emitText text, alike, _ => by
    rw [Stmt.run, Stmt.run]
    exact .modify_ran (alike.write text)
  | .emit e, alike, covered => by
    rw [Stmt.run, Stmt.run]
    have value := e.eval_lockstep (alike.sameOn covered)
    have written := Run.Lockstep.ofEval_alike alike covered.bound
      (value.bind fun v _ => .write v)
    exact (written.bind (fun _ _ _ ended => .pure (.ok ended.1)) fun _ _ _ ended => ended.error).ran
  | .declare name value, alike, covered => by
    rw [Stmt.run, Stmt.run]
    refine (value.run_lockstep alike covered).bind ?_ fun _ _ _ ended => .error ended
    intro v t₁ t₂ ended
    exact .modify_ran (ended.1.declare name v)
  | .assign name op value, alike, covered => by
    rw [Stmt.run, Stmt.run]
    have assigned := assigned_lockstep (alike.sameOn covered)
    refine (Run.Lockstep.ofEval_alike alike covered.bound assigned).bind ?_
      fun _ _ _ ended => .error ended
    intro v t₁ t₂ ended
    exact .modify_ran (ended.1.assign name v)
  | .expr e, alike, covered => by
    rw [Stmt.run, Stmt.run]
    exact ((e.run_lockstep alike covered).bind (fun _ _ _ ended => .pure (.ok ended.1))
      fun _ _ _ ended => ended.error).ran
  | .branch cond body otherwise, alike, covered => by
    rw [Stmt.run, Stmt.run]
    have condition := cond.run_lockstep alike
      (covered.mono (by grind [Stmt.freeNames]) (by grind [Stmt.optional]))
    refine (condition.branch ?_ ?_).ran
    · intro t₁ t₂ alike
      exact .inBody_alike alike (by simp) fun u₁ u₂ alike =>
        runBlock_lockstep body alike
          ((covered.mono (by grind [Stmt.freeNames]) (by grind [Stmt.optional])).enter [])
    · intro t₁ t₂ alike
      exact otherwise.run_lockstep alike (by simp)
        (covered.mono (by grind [Stmt.freeNames]) (by grind [Stmt.optional]))
  | .forLoop var iterable body, alike, covered => by
    rw [Stmt.run, Stmt.run]
    have iterated := iterable.run_lockstep alike
      (covered.mono (by grind [Stmt.freeNames]) (by grind [Stmt.optional]))
    refine ((iterated.more (by grind [Stmt.freeNames])).bind ?_ fun _ _ _ ended => ended.error).ran
    intro v t₁ t₂ ended
    have listed : Run.Lockstep (Run.ofEval (Eval.ofExcept v.items))
        (Run.ofEval (Eval.ofExcept v.items)) t₁ t₂
        (KeepsAlike shared (known :: outer) context₁ context₂
          (Stmt.freeNames bound (.forLoop var iterable body))) :=
      .ofEval (.ofExcept (unlisted_failed _) v.items) fun _ text stops =>
        ⟨ended.1.write text, stops⟩
    refine listed.bind ?_ fun _ _ _ ended => ended.error
    intro items u₁ u₂ ended
    have inside : Covered shared ([] :: known :: outer) bound (blockFreeNames (var :: bound) body)
        (blockOptional body) :=
      (covered.mono (by grind [Stmt.freeNames]) (by grind [Stmt.optional])).enter []
    have binds (item : Value) : ∀ n ∈ [var], ((Bindings.ofList [(var, item)]).find? n).isSome := by
      simp [Bindings.ofList, Bindings.insertAll, Bindings.find?, Bindings.empty, Entries.insert,
        Entries.find?_cons]
    have round (item : Value) (w₁ w₂ : State)
        (alike : State.Alike shared (known :: outer) context₁ context₂ w₁ w₂) :
        Run.Lockstep (Run.inScope (.ofList [(var, item)]) (runBlock context₁ limit body))
          (Run.inScope (.ofList [(var, item)]) (runBlock context₂ limit body)) w₁ w₂
          (KeepsAlike shared (known :: outer) context₁ context₂
            (blockFreeNames (var :: bound) body)) :=
      .inScope_alike alike (by simp) (binds item) fun x₁ x₂ alike =>
        runBlock_lockstep body alike (inside.bind [var])
    have rounds := Run.Lockstep.inLoop_alike ended.1 fun w₁ w₂ alike =>
      Run.Lockstep.forEach round items alike
    exact (rounds.more (by grind [Stmt.freeNames])).bind (fun _ _ _ ended => .pure (.ok ended.1))
      fun _ _ _ ended => ended.error
  | .whileLoop cond body, alike, covered => by
    rw [Stmt.run, Stmt.run]
    have condition (t₁ t₂ : State)
        (alike : State.Alike shared (known :: outer) context₁ context₂ t₁ t₂) :
        Run.Lockstep (Run.ofEval (Value.truthy <$> cond.eval context₁))
          (Run.ofEval (Value.truthy <$> cond.eval context₂)) t₁ t₂
          (KeepsAlike shared (known :: outer) context₁ context₂
            (Stmt.freeNames bound (.whileLoop cond body))) := by
      have value := cond.eval_lockstep (alike.sameOn
        (covered.mono (by grind [Stmt.freeNames]) (by grind [Stmt.optional])))
      exact (Run.Lockstep.ofEval_alike alike covered.bound (value.map Value.truthy)).more
        (by grind [Stmt.freeNames])
    have round (t₁ t₂ : State)
        (alike : State.Alike shared (known :: outer) context₁ context₂ t₁ t₂) :
        Run.Lockstep (Run.inScope .empty (runBlock context₁ limit body))
          (Run.inScope .empty (runBlock context₂ limit body)) t₁ t₂
          (KeepsAlike shared (known :: outer) context₁ context₂
            (Stmt.freeNames bound (.whileLoop cond body))) := by
      have inside : Covered shared (known :: outer) bound (blockFreeNames bound body)
          (blockOptional body) :=
        covered.mono (by grind [Stmt.freeNames]) (by grind [Stmt.optional])
      have inBody := Run.Lockstep.inBody_alike alike (by simp) fun u₁ u₂ alike =>
        runBlock_lockstep body alike (inside.enter [])
      exact inBody.more (by grind [Stmt.freeNames])
    have rounds := Run.Lockstep.inLoop_alike alike fun t₁ t₂ alike =>
      Run.Lockstep.whileTrue condition round limit alike
    exact (rounds.bind (fun _ _ _ ended => .pure (.ok ended.1)) fun _ _ _ ended => ended.error).ran
  | .breakLoop, alike, _ => by
    rw [Stmt.run, Stmt.run]
    exact (Run.Lockstep.control alike.loops alike (unlisted_failed _)).ran
  | .continueLoop, alike, _ => by
    rw [Stmt.run, Stmt.run]
    exact (Run.Lockstep.control alike.loops alike (unlisted_failed _)).ran

theorem Else.run_lockstep {levels : List (List String)} {bound : List String} {s₁ s₂ : State} :
    ∀ (e : Else), State.Alike shared levels context₁ context₂ s₁ s₂ →
    levels ≠ [] →
    Covered shared levels bound (e.freeNames bound) e.optional →
    Run.Lockstep (e.run context₁ limit) (e.run context₂ limit) s₁ s₂
      (KeepsAlike shared levels context₁ context₂ (e.freeNames bound))
  | .nothing, alike, _, _ => by
    rw [Else.run, Else.run]
    exact .pure (.ok alike)
  | .block body, alike, inside, covered => by
    rw [Else.run, Else.run]
    exact .inBody_alike alike inside fun u₁ u₂ alike =>
      runBlock_lockstep body alike (covered.enter [])
  | .elif cond body otherwise, alike, inside, covered => by
    rw [Else.run, Else.run]
    have condition := cond.run_lockstep alike
      (covered.mono (by grind [Else.freeNames]) (by grind [Else.optional]))
    refine condition.branch ?_ ?_
    · intro t₁ t₂ alike
      exact .inBody_alike alike inside fun u₁ u₂ alike =>
        runBlock_lockstep body alike
          ((covered.mono (by grind [Else.freeNames]) (by grind [Else.optional])).enter [])
    · intro t₁ t₂ alike
      exact otherwise.run_lockstep alike inside
        (covered.mono (by grind [Else.freeNames]) (by grind [Else.optional]))

/-- Statements run in two states that agree on their names do the same in both. -/
theorem runBlock_lockstep {known bound : List String} {outer : List (List String)}
    {s₁ s₂ : State} : ∀ (ss : List Stmt),
    State.Alike shared (known :: outer) context₁ context₂ s₁ s₂ →
    Covered shared (known :: outer) bound (blockFreeNames bound ss) (blockOptional ss) →
    Run.Lockstep (runBlock context₁ limit ss) (runBlock context₂ limit ss) s₁ s₂
      (KeepsAlike shared (known :: outer) context₁ context₂ (blockFreeNames bound ss))
  | [], alike, _ => by
    rw [runBlock, runBlock]
    exact .pure (.ok alike)
  | s :: ss, alike, covered => by
    rw [runBlock, runBlock]
    have first := s.run_lockstep alike
      (covered.mono (by grind [blockFreeNames]) (by grind [blockOptional]))
    have more (result : Except Stop Flow) (t₁ t₂ : State)
        (ended : KeepsAlike shared (known :: outer) context₁ context₂ (s.freeNames bound)
          result t₁ t₂) :
        KeepsAlike shared (known :: outer) context₁ context₂ (blockFreeNames bound (s :: ss))
          result t₁ t₂ :=
      ⟨ended.1, fun stop eq => (ended.2 stop eq).mono (by grind [blockFreeNames])⟩
    refine first.bind ?_ fun _ t₁ t₂ ran => more _ t₁ t₂ ran.1
    intro flow t₁ t₂ ran
    cases flow with
    | normal =>
        have later : Covered shared (known :: outer) bound (blockFreeNames (s.binds ++ bound) ss)
            (blockOptional ss) :=
          covered.mono (by grind [blockFreeNames]) (by grind [blockOptional])
        refine (runBlock_lockstep ss (ran.2 rfl) (later.bind s.binds)).mono ?_
        intro result u₁ u₂ ended
        refine ⟨ended.1.mono (by grind), ?_⟩
        intro stop eq
        exact (ended.2 stop eq).forget.mono (by grind [blockFreeNames])
    | leave => exact .pure (more _ t₁ t₂ ran.1)
    | next => exact .pure (more _ t₁ t₂ ran.1)

end

end Lockstep

end Stencil
