import Stencil.Proofs.Render.Evaluation
import Stencil.Template

/-!
# Required names of programs without bodies

A program that has no bodies, no connectives and no calls of `default` reads its names in the order
in which they are listed, since nothing in it is skipped: an expression does so in every state
(`Expr.eval_visits`), a statement as long as just the names are bound that it takes for bound
(`Stmt.run_visits`). So it does not come to its end without a name that is required, and if it stops
at a name that nothing binds, that is the first of them. Before that name is read, it can stop only
because something else fails.
-/

namespace Stencil

section Duplicates

variable {α : Type} [BEq α] [LawfulBEq α]

theorem nodup_eraseDups (l : List α) : l.eraseDups.Nodup := by
  cases l with
  | nil => simp
  | cons a l =>
      rw [List.eraseDups_cons, List.nodup_cons]
      exact ⟨by simp [List.mem_eraseDups], nodup_eraseDups (l.filter fun b => !b == a)⟩
termination_by l.length
decreasing_by exact Nat.lt_succ_of_le (List.length_filter_le _ _)

theorem find?_eraseDups (p : α → Bool) (l : List α) : l.eraseDups.find? p = l.find? p := by
  cases l with
  | nil => simp
  | cons a l =>
      rw [List.eraseDups_cons, List.find?_cons, List.find?_cons]
      cases found : p a with
      | true => rfl
      | false =>
          have others : (fun b => decide ((!b == a) = true ∧ p b = true)) = p := by
            funext b
            by_cases same : b = a <;> simp [same, found]
          simp only [find?_eraseDups p (l.filter fun b => !b == a), List.find?_filter, others]
termination_by l.length
decreasing_by exact Nat.lt_succ_of_le (List.length_filter_le _ _)

end Duplicates

/-! ### Programs in which nothing is skipped -/

mutual

/-- Whether all that an expression holds is evaluated whenever it is: it has no connectives and no
calls of `default`. -/
def Expr.isStrict : Expr → Bool
  | .literal _ => true
  | .list items => allStrict items
  | .var _ => true
  | .unary _ e => e.isStrict
  | .connect _ _ _ => false
  | .binary _ l r => l.isStrict && r.isStrict
  | .call function args => function != Builtin.default.name && allStrict args
  | .index target position => target.isStrict && position.isStrict
  | .member target _ => target.isStrict

def allStrict : List Expr → Bool
  | [] => true
  | e :: es => e.isStrict && allStrict es

end

/-- Whether a statement has no body and only strict expressions. -/
def Stmt.isStraight : Stmt → Bool
  | .emitText _ => true
  | .emit e => e.isStrict
  | .declare _ value => value.isStrict
  | .assign _ _ value => value.isStrict
  | .expr e => e.isStrict
  | _ => false

/-! ### Evaluations that read names in their order -/

/-- The first of some names that nothing binds. -/
def State.missing? (context : Context) (s : State) (names : List String) : Option String :=
  names.find? fun n => (s.value? context n).isNone

theorem State.missing?_append {context : Context} {s : State} {names names' : List String} :
    s.missing? context (names ++ names') =
      (s.missing? context names).or (s.missing? context names') :=
  List.find?_append

/-- What a result tells about the first missing name: there is none if it is a value, and it is the
name that the evaluation stopped at if it stopped at one. -/
def Tells {α : Type} (missing : Option String) : Except Stop α → Prop
  | .ok _ => missing = none
  | .error (.unbound name) => missing = some name
  | .error (.failed _) => True

namespace Tells

variable {α β : Type} {missing missing' : Option String}

/-- Behind a value it depends on what follows. -/
theorem afterValue {a : α} {result : Except Stop β} (first : Tells missing (.ok a : Except Stop α))
    (second : Tells missing' result) : Tells (missing.or missing') result := by
  obtain rfl : missing = none := first
  simpa using second

theorem afterStop {stop : Stop} (first : Tells missing (.error stop : Except Stop α)) :
    Tells (missing.or missing') (.error stop : Except Stop β) := by
  cases stop with
  | unbound name =>
      obtain rfl : missing = some name := first
      rfl
  | failed failure => trivial

end Tells

namespace Eval

variable {α β : Type} {context : Context} {s : State} {names names' : List String}

/-- The evaluation reads the names in their order, unless it fails before, and changes nothing but
the output. -/
def Visits (context : Context) (names : List String) (e : Eval α) (s : State) : Prop :=
  ∃ result text, e.outcome s = (result, s.write text) ∧ Tells (s.missing? context names) result

namespace Visits

theorem pure (a : α) : Visits context [] (Pure.pure a) s := ⟨.ok a, "", by simp, rfl⟩

theorem failed (failure : Failure) : Visits (α := α) context names (throw (.failed failure)) s :=
  ⟨.error (.failed failure), "", by simp, trivial⟩

theorem ofExcept (r : Except Failure α) : Visits context [] (Eval.ofExcept r) s := by
  cases r with
  | ok a => exact .pure a
  | error failure => exact .failed failure

theorem write (v : Value) : Visits context [] (Eval.write v) s := ⟨.ok (), v.text, rfl, rfl⟩

theorem lookup (name : String) : Visits context [name] (Eval.lookup context name) s := by
  cases found : s.value? context name with
  | some v =>
      refine ⟨.ok v, "", ?_, by simp [Tells, State.missing?, found]⟩
      rw [State.value?] at found
      rw [outcome_lookup, found]
      simp
  | none =>
      refine ⟨.error (.unbound name), "", ?_, by simp [Tells, State.missing?, found]⟩
      rw [State.value?] at found
      rw [outcome_lookup, found]
      simp

theorem bind {e : Eval α} {f : α → Eval β} (first : Visits context names e s)
    (second : ∀ a text, Visits context names' (f a) (s.write text)) :
    Visits context (names ++ names') (e >>= f) s := by
  obtain ⟨result, text, ran, tells⟩ := first
  cases result with
  | ok a =>
      obtain ⟨result', text', ran', tells'⟩ := second a text
      refine ⟨result', text ++ text', ?_, State.missing?_append ▸ tells.afterValue tells'⟩
      rw [outcome_bind, ran]
      simpa using ran'
  | error stop =>
      refine ⟨.error stop, text, ?_, State.missing?_append ▸ tells.afterStop⟩
      rw [outcome_bind, ran]

/-- Nothing is read any more once the names have been. -/
theorem andThen {e : Eval α} {f : α → Eval β} (first : Visits context names e s)
    (second : ∀ a text, Visits context [] (f a) (s.write text)) :
    Visits context names (e >>= f) s := by
  simpa using first.bind second

theorem writeString (function : String) (v : Value) :
    Visits context [] (Eval.writeString function v) s := by
  have written {s : State} :
      Visits context [] (do Eval.write v; return Value.none) s :=
    (write v).andThen fun _ _ => .pure _
  rw [Eval.writeString]
  split
  · exact Visits.andThen (.failed _) fun _ _ => written
  · exact written

end Visits

end Eval

variable {context : Context}

mutual

/-- A strict expression reads its names in the order in which they are listed. -/
theorem Expr.eval_visits : ∀ {e : Expr} {s : State}, e.isStrict = true →
    Eval.Visits context e.reads (e.eval context) s
  | .literal l, s, _ => by
    rw [Expr.eval, Expr.reads]
    exact .pure _
  | .list items, s, strict => by
    rw [Expr.eval, Expr.reads]
    exact (evalAll_visits strict).andThen fun _ _ => .pure _
  | .var name, s, _ => by
    rw [Expr.eval, Expr.reads]
    exact .lookup name
  | .unary op e, s, strict => by
    rw [Expr.eval, Expr.reads]
    exact (Expr.eval_visits (e := e) strict).andThen fun _ _ => .ofExcept _
  | .connect _ _ _, _, strict => by cases strict
  | .binary op l r, s, strict => by
    rw [Expr.isStrict, Bool.and_eq_true] at strict
    rw [Expr.eval, Expr.reads]
    exact (Expr.eval_visits strict.1).bind fun _ _ =>
      (Expr.eval_visits strict.2).andThen fun _ _ => .ofExcept _
  | .call function args, s, strict => by
    rw [Expr.isStrict, Bool.and_eq_true, bne_iff_ne] at strict
    obtain ⟨notDefault, strict⟩ := strict
    rw [Expr.reads_call notDefault]
    cases callee : Callee.ofName function with
    | write =>
        rw [Expr.eval.eq_def]
        simp only [callee]
        exact (writeAll_visits strict).andThen fun _ _ => .pure _
    | writeOne =>
        rw [Expr.eval.eq_def]
        simp only [callee]
        match args with
        | [] => exact .failed _
        | [arg] =>
            rw [allStrict, Bool.and_eq_true] at strict
            rw [readsAll, readsAll, List.append_nil]
            exact (Expr.eval_visits strict.1).andThen fun v _ =>
              (Eval.Visits.write v).andThen fun _ _ => .pure _
        | _ :: _ :: _ => exact .failed _
    | writeString =>
        rw [Expr.eval.eq_def]
        simp only [callee]
        match args with
        | [] => exact .failed _
        | [arg] =>
            rw [allStrict, Bool.and_eq_true] at strict
            rw [readsAll, readsAll, List.append_nil]
            exact (Expr.eval_visits strict.1).andThen fun v _ => .writeString function v
        | _ :: _ :: _ => exact .failed _
    | builtin b =>
        have notDefault : b ≠ .default := by
          rintro rfl
          exact notDefault (Callee.eq_name_of_ofName callee)
        rw [Expr.eval_builtin callee notDefault]
        exact (evalAll_visits strict).andThen fun _ _ => .ofExcept _
    | unknown =>
        rw [Expr.eval.eq_def]
        simp only [callee]
        exact (evalAll_visits strict).andThen fun _ _ => .failed _
  | .index target position, s, strict => by
    rw [Expr.isStrict, Bool.and_eq_true] at strict
    rw [Expr.eval, Expr.reads]
    exact (Expr.eval_visits strict.1).bind fun _ _ =>
      (Expr.eval_visits strict.2).andThen fun _ _ => .ofExcept _
  | .member target name, s, strict => by
    rw [Expr.eval, Expr.reads]
    exact (Expr.eval_visits (e := target) strict).andThen fun _ _ => .ofExcept _

theorem evalAll_visits : ∀ {es : List Expr} {s : State}, allStrict es = true →
    Eval.Visits context (readsAll es) (evalAll context es) s
  | [], s, _ => by
    rw [evalAll, readsAll]
    exact .pure _
  | e :: es, s, strict => by
    rw [allStrict, Bool.and_eq_true] at strict
    rw [evalAll, readsAll]
    exact (Expr.eval_visits strict.1).bind fun _ _ =>
      (evalAll_visits strict.2).andThen fun _ _ => .pure _

theorem writeAll_visits : ∀ {es : List Expr} {s : State}, allStrict es = true →
    Eval.Visits context (readsAll es) (writeAll context es) s
  | [], s, _ => by
    rw [writeAll, readsAll]
    exact .pure _
  | e :: es, s, strict => by
    rw [allStrict, Bool.and_eq_true] at strict
    rw [writeAll, readsAll]
    refine (Expr.eval_visits strict.1).bind fun v _ => ?_
    simpa using (Eval.Visits.write v).bind fun _ _ => writeAll_visits strict.2

end

/-! ### Runs that read names in their order -/

/-- Just these names are bound, in the outermost scope, and there is no other. -/
def State.Binds (bound : List String) (s : State) : Prop :=
  s.scopes.inner = [] ∧ ∀ n, (s.scopes.find? n).isSome = bound.contains n

theorem Scopes.assign_of_inner {s : Scopes} (h : s.inner = []) (context : Context) (name : String)
    (v : Value) : s.assign context name v = s.declare name v := by
  simp [assign, declare, h, update?]

namespace State.Binds

variable {bound names : List String} {s : State}

theorem write (h : s.Binds bound) (text : String) : (s.write text).Binds bound := h

theorem declare (h : s.Binds bound) (name : String) (v : Value) :
    State.Binds (name :: bound) { s with scopes := s.scopes.declare name v } := by
  refine ⟨by simp [Scopes.declare, h.1], fun n => ?_⟩
  rw [Scopes.find?_declare]
  by_cases same : n = name
  · simp [same]
  · simp [same, h.2]

theorem missing? (h : s.Binds bound) :
    s.missing? context names = (unboundIn bound names).find? fun n => !context.contains n := by
  rw [State.missing?, unboundIn, List.find?_filter]
  congr 1
  funext n
  have here := h.2 n
  cases found : s.scopes.find? n <;> cases known : context.find? n <;>
    simp_all [State.value?, Bindings.contains_eq_isSome]

end State.Binds

/-- The old value is read only where it is combined with the new one. -/
theorem assigned_visits (name : String) (op : AssignOp) (v : Value) (s : State) :
    Eval.Visits context (if op = .set then [] else [name]) (Run.assigned context name op v) s := by
  cases op with
  | set => exact .pure v
  | add | sub => exact (Eval.Visits.lookup name).andThen fun _ _ => .ofExcept _

namespace Run

variable {α : Type} {bound bound' free free' names : List String} {s : State}

/-- The run reads in their order names that the context has to bind, unless it fails before. If it
comes to its end, it ends normally, and just some names are bound then. -/
def Visits (context : Context) (free bound' : List String) (r : Run Flow) (s : State) : Prop :=
  ∃ result t, r.outcome s = some (result, t) ∧
    Tells (free.find? fun n => !context.contains n) result ∧
    ∀ flow, result = .ok flow → flow = .normal ∧ t.Binds bound'

namespace Visits

theorem normal (binds : s.Binds bound) : Visits context [] bound (pure .normal) s := by
  refine ⟨.ok .normal, s, rfl, rfl, ?_⟩
  rintro _ ⟨⟩
  exact ⟨rfl, binds⟩

theorem modify {f : State → State} (binds : (f s).Binds bound) :
    Visits context [] bound (do modify f; return .normal) s := by
  refine ⟨.ok .normal, f s, rfl, rfl, ?_⟩
  rintro _ ⟨⟩
  exact ⟨rfl, binds⟩

theorem ofEval {e : Eval α} {next : α → Run Flow} (binds : s.Binds bound)
    (first : e.Visits context names s)
    (last : ∀ a t, t.Binds bound → Visits context [] bound' (next a) t) :
    Visits context (unboundIn bound names) bound' (Run.ofEval e >>= next) s := by
  obtain ⟨result, text, ran, tells⟩ := first
  rw [binds.missing?] at tells
  cases result with
  | ok a =>
      obtain ⟨result', t, ran', tells', ends⟩ := last a _ (binds.write text)
      refine ⟨result', t, ?_, by simpa using tells.afterValue tells', ends⟩
      rw [outcome_bind, outcome_ofEval, ran]
      exact ran'
  | error stop =>
      refine ⟨.error stop, s.write text, ?_, by cases stop <;> exact tells, by rintro _ ⟨⟩⟩
      rw [outcome_bind, outcome_ofEval, ran]

theorem andThen {r : Run Flow} {next : Flow → Run Flow} (first : Visits context free bound r s)
    (second : ∀ t, t.Binds bound → Visits context free' bound' (next .normal) t) :
    Visits context (free ++ free') bound' (r >>= next) s := by
  obtain ⟨result, t, ran, tells, ends⟩ := first
  cases result with
  | ok flow =>
      obtain ⟨rfl, binds⟩ := ends flow rfl
      obtain ⟨result', u, ran', tells', ends'⟩ := second t binds
      refine ⟨result', u, ?_, List.find?_append ▸ tells.afterValue tells', ends'⟩
      rw [outcome_bind, ran]
      exact ran'
  | error stop =>
      refine ⟨.error stop, t, ?_, List.find?_append ▸ tells.afterStop, by rintro _ ⟨⟩⟩
      rw [outcome_bind, ran]

end Visits

end Run

theorem Stmt.run_visits {stmt : Stmt} {s : State} {bound : List String}
    (straight : stmt.isStraight = true) (binds : s.Binds bound) (limit : Nat) :
    Run.Visits context (stmt.freeNames bound) (stmt.binds ++ bound) (stmt.run context limit) s := by
  cases stmt with
  | emitText text =>
      rw [Stmt.run, Stmt.freeNames]
      exact .modify (binds.write text)
  | emit e =>
      rw [Stmt.run, Stmt.freeNames]
      refine .ofEval binds ((Expr.eval_visits straight).andThen fun v _ => .write v) ?_
      exact fun _ t binds => .normal binds
  | declare name value =>
      rw [Stmt.run, Stmt.freeNames]
      refine .ofEval binds (Expr.eval_visits straight) ?_
      exact fun v t binds => .modify (binds.declare name v)
  | assign name op value =>
      rw [Stmt.run, Stmt.freeNames]
      refine .ofEval binds ((Expr.eval_visits straight).bind fun v _ =>
        assigned_visits name op v _) fun v t binds => .modify ?_
      rw [Scopes.assign_of_inner binds.1]
      exact binds.declare name v
  | expr e =>
      rw [Stmt.run, Stmt.freeNames]
      refine .ofEval binds (Expr.eval_visits straight) ?_
      exact fun _ t binds => .normal binds
  | branch | forLoop | whileLoop | breakLoop | continueLoop => cases straight

/-- Which names are bound at the end depends on the program alone. -/
theorem runBlock_visits {p : Program} {bound : List String}
    (straight : ∀ stmt ∈ p, stmt.isStraight = true) (limit : Nat) :
    ∃ bound', ∀ s : State, s.Binds bound →
      Run.Visits context (blockFreeNames bound p) bound' (runBlock context limit p) s := by
  induction p generalizing bound with
  | nil =>
      refine ⟨bound, fun s binds => ?_⟩
      rw [runBlock, blockFreeNames]
      exact .normal binds
  | cons stmt p ih =>
      obtain ⟨first, others⟩ := List.forall_mem_cons.1 straight
      obtain ⟨bound', rest⟩ := @ih (stmt.binds ++ bound) others
      refine ⟨bound', fun s binds => ?_⟩
      rw [runBlock, blockFreeNames]
      exact (Stmt.run_visits first binds limit).andThen fun t binds => rest t binds

namespace Template

/-- The first required name is the first free name that the context does not bind. -/
theorem head?_requiredNames (t : Template) (context : Context) :
    (t.requiredNames context).head? =
      (blockFreeNames [] t.program).find? fun n => !context.contains n := by
  rw [requiredNames, List.head?_filter, Program.freeNames, find?_eraseDups]

/-- The required names are listed once each. A program without bodies, connectives and calls of
`default` fails if there are any, and if it stops at a name that nothing binds, that is the first
of them. -/
theorem requiredNames_straight (t : Template) (context : Context) :
    (t.requiredNames context).Nodup ∧
      ((∀ stmt ∈ t.program, stmt.isStraight = true) → ∀ limit, ∃ result,
        t.render context limit = some result ∧
        (t.requiredNames context ≠ [] → ∃ e, result = .error e) ∧
        ∀ name template program, result = .error (.unbound name template program) →
          (t.requiredNames context).head? = some name) := by
  constructor
  · exact (nodup_eraseDups _).filter _
  · intro straight limit
    have nothingBound : State.start.Binds [] := ⟨rfl, fun n => rfl⟩
    obtain ⟨_, visits⟩ := runBlock_visits straight limit
    obtain ⟨result, s, ran, tells, -⟩ := visits .start nothingBound
    rw [← head?_requiredNames] at tells
    refine ⟨_, by rw [render, Program.run, Program.runFrom_eq, ran]; rfl, ?_, ?_⟩
    · intro required
      cases result with
      | ok flow =>
          have none : (t.requiredNames context).head? = none := tells
          exact absurd (List.head?_eq_none_iff.1 none) required
      | error stop => exact ⟨_, rfl⟩
    · intro name template program stopped
      cases result with
      | ok flow => cases stopped
      | error stop =>
          cases stop with
          | unbound n =>
              cases stopped
              exact tells
          | failed failure => cases stopped

/-- A template that adds to a name what it reads before. -/
def total : Template where
  name := none
  markers := {}
  source := "/*: total += step * n; :*/\x7b\x7b total + rest \x7d\x7d"
  program :=
    [.assign "total" .add (.binary (.arith .mul) (.var "step") (.var "n")),
      .emit (.binary (.arith .add) (.var "total") (.var "rest"))]
  compiled := by cbv

/-- The operands come before the name that is assigned to, and the first of them that is missing
stops the render. -/
theorem total_requiredNames :
    (∀ stmt ∈ total.program, stmt.isStraight = true) ∧
      total.requiredNames (.ofList [("n", .int 2)]) = ["step", "total", "rest"] ∧
      ∀ limit, total.render (.ofList [("n", .int 2)]) limit =
          some (.error (.unbound "step" none total.dump)) ∧
        (total.requiredNames (.ofList [("n", .int 2)])).head? = some "step" := by
  have straight : ∀ stmt ∈ total.program, stmt.isStraight = true := by decide
  have required : total.requiredNames (.ofList [("n", .int 2)]) = ["step", "total", "rest"] := by
    decide
  refine ⟨straight, required, fun limit => ?_⟩
  have stops : total.render (.ofList [("n", .int 2)]) limit =
      some (.error (.unbound "step" none total.dump)) := by
    rfl
  obtain ⟨result, rendered, -, first⟩ := (requiredNames_straight total _).2 straight limit
  obtain rfl := Option.some.inj (rendered.symm.trans stops)
  exact ⟨stops, first "step" none total.dump rfl⟩

end Template

end Stencil
