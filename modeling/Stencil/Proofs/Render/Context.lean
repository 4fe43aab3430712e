import Stencil.Proofs.Render.Simulation
import Stencil.Template

/-!
# What a render finds out about its context

Three facts about contexts, each a case of `runBlock_lockstep` with its own choice of states. A
render that stops at an unbound name stops at one that the template is said to require: here one
context is compared with itself, and all its names are known. Contexts that agree on the free and
the optional names give the same render. And a context may as well be declared in the outermost
scope before the program starts: the layers of scopes and context are the same then.
-/

namespace Stencil

/-- The names that a template reads if they are bound, and else does without. -/
def Template.optionalNames (t : Template) : List String := blockOptional t.program

/-- The state at the start, except that the outermost scope binds all that a context binds. -/
def State.prelude (context : Context) : State := { State.start with scopes := ⟨[], context⟩ }

/-- A state of one scope is known by what the names mean in it. -/
theorem State.Alike.ofMeaning {shared : String → Prop} {known : List String}
    {context₁ context₂ : Context} {s₁ s₂ : State} (inner₁ : s₁.scopes.inner = [])
    (inner₂ : s₂.scopes.inner = []) (output : s₁.output = s₂.output) (loops : s₁.loops = s₂.loops)
    (same : ∀ n, shared n → s₁.value? context₁ n = s₂.value? context₂ n)
    (bound : ∀ n ∈ known, s₁.value? context₁ n = s₂.value? context₂ n ∧
      (s₁.value? context₁ n).isSome) :
    State.Alike shared [known] context₁ context₂ s₁ s₂ := by
  have single (context : Context) (s : Scopes) (empty : s.inner = []) :
      s.layers context = [fun n => s.find? n <|> context.find? n] := by
    simp [Scopes.layers, Scopes.find?, empty]
  refine ⟨?_, output, loops⟩
  rw [single _ _ inner₁, single _ _ inner₂]
  refine .cons .nil ?_ ?_
  · intro n hn
    exact same n (by simpa using hn)
  · intro n hn
    simpa [Layers.find?_cons, State.value?] using bound n hn

/-- A program comes to the same in states that it cannot tell apart. -/
theorem Program.runFrom_congr {shared : String → Prop} {known : List String}
    {outer : List (List String)} {context₁ context₂ : Context} {s₁ s₂ : State} (p : Program)
    (alike : State.Alike shared (known :: outer) context₁ context₂ s₁ s₂)
    (covered : Covered shared (known :: outer) [] (blockFreeNames [] p) (blockOptional p))
    (limit : Nat) : p.runFrom s₁ context₁ limit = p.runFrom s₂ context₂ limit := by
  have ends : Run.Lockstep (runBlock context₁ limit p) (runBlock context₂ limit p) s₁ s₂
      (KeepsAlike shared (known :: outer) context₁ context₂ (blockFreeNames [] p)) :=
    runBlock_lockstep p alike covered
  rw [Run.Lockstep] at ends
  rw [Program.runFrom_eq, Program.runFrom_eq]
  generalize (runBlock context₁ limit p).outcome s₁ = o₁,
    (runBlock context₂ limit p).outcome s₂ = o₂ at ends ⊢
  cases ends with
  | none => rfl
  | some ended => simp [ended.1.output]

/-- Only names that nothing binds stop a program as unbound. -/
theorem Program.mem_freeNames_of_unbound {p : Program} {context : Context} {limit : Nat}
    {name : String} (h : p.run context limit = some (.error (.unbound name))) :
    name ∈ p.freeNames ∧ context.contains name = false := by
  have alike : State.Alike (fun _ => True) [context.names] context context .start .start := by
    refine .ofMeaning rfl rfl rfl rfl (fun _ _ => rfl) ?_
    intro n hn
    exact ⟨rfl, by simpa [State.value?, State.start, Scopes.start, Scopes.find?] using
      Bindings.mem_names.1 hn⟩
  have covered : Covered (fun _ => True) [context.names] [] (blockFreeNames [] p)
      (blockOptional p) := ⟨by simp, by simp, by simp⟩
  have ends : Run.Lockstep (runBlock context limit p) (runBlock context limit p) .start .start
      (KeepsAlike (fun _ => True) [context.names] context context (blockFreeNames [] p)) :=
    runBlock_lockstep p alike covered
  rw [Run.Lockstep] at ends
  rw [Program.run, Program.runFrom_eq] at h
  generalize (runBlock context limit p).outcome .start = o at ends h
  cases ends with
  | none => simp at h
  | @some result t₁ t₂ ended =>
      cases result with
      | ok flow => simp [Except.map] at h
      | error stop =>
          obtain rfl : stop = .unbound name := by simpa [Except.map] using h
          obtain ⟨listed, unknown⟩ := ended.2 _ rfl name rfl
          refine ⟨?_, ?_⟩
          · simpa [Program.freeNames] using listed
          · simpa [Bindings.mem_names, Bindings.contains_eq_isSome] using unknown

/-- A render that stops at an unbound name stops at a required one: when no name is required, no
render ends so. -/
theorem Template.mem_requiredNames_of_unbound {t : Template} {context : Context} {limit : Nat}
    {name program : String} {template : Option String}
    (h : t.render context limit = some (.error (.unbound name template program))) :
    name ∈ t.requiredNames context := by
  rw [Template.render, Option.map_eq_some_iff] at h
  obtain ⟨result, ran, eq⟩ := h
  cases result with
  | ok text => cases eq
  | error stop =>
      cases stop with
      | failed failure => cases eq
      | unbound n =>
          cases eq
          obtain ⟨free, unbound⟩ := Program.mem_freeNames_of_unbound ran
          simp [Template.requiredNames, free, unbound]

/-- A template that assigns to a name under a condition, and then reads it. -/
def Template.flagged : Template where
  name := none
  markers := {}
  source := "//: if flag\n/*: x = 1 :*//*: x += 1 :*/{{ x }}//!"
  program :=
    [.branch (.var "flag")
      [.assign "x" .set (.literal (.int 1)), .assign "x" .add (.literal (.int 1)), .emit (.var "x")]
      .nothing]
  compiled := by cbv

/-- Without a context, the flag is missed and is required. -/
theorem Template.flagged_unbound :
    Template.flagged.render .empty 1 = some (.error (Template.flagged.errorOf (.unbound "flag"))) ∧
      "flag" ∈ Template.flagged.requiredNames .empty := by
  constructor
  · rfl
  · have ran : Template.flagged.render .empty 1 =
        some (.error (.unbound "flag" none Template.flagged.dump)) := rfl
    exact Template.mem_requiredNames_of_unbound ran

/-- Contexts that agree on the required and the optional names give the same render. -/
theorem Template.render_eq_of_agree (t : Template) {context₁ context₂ : Context}
    (agree : ∀ n ∈ t.requiredNames .empty ++ t.optionalNames,
      context₁.find? n = context₂.find? n) (limit : Nat) :
    t.render context₁ limit = t.render context₂ limit := by
  have alike : State.Alike (fun n => n ∈ t.requiredNames .empty ++ t.optionalNames) [[]]
      context₁ context₂ .start .start := by
    refine .ofMeaning rfl rfl rfl rfl ?_ (by simp)
    intro n hn
    simpa [State.value?, State.start, Scopes.start, Scopes.find?] using agree n hn
  have covered : Covered (fun n => n ∈ t.requiredNames .empty ++ t.optionalNames) [[]] []
      (blockFreeNames [] t.program) (blockOptional t.program) := by
    refine ⟨by simp, ?_, ?_⟩
    · intro n hn
      simp [Template.requiredNames, Program.freeNames, Bindings.contains_eq_isSome, hn]
    · intro n hn
      simp [Template.optionalNames, hn]
  rw [Template.render, Template.render, Program.run, Program.run,
    Program.runFrom_congr t.program alike covered]

/-- What the context binds a name to that is assigned before it is read makes no difference. -/
theorem Template.flagged_render_eq :
    Template.flagged.render (.ofList [("flag", .bool true)]) 1 =
      Template.flagged.render (.ofList [("flag", .bool true), ("x", .int 7)]) 1 := by
  apply Template.render_eq_of_agree
  intro n hn
  have required : n = "flag" := by
    have names : Template.flagged.requiredNames .empty ++ Template.flagged.optionalNames =
        ["flag"] := by decide
    simpa [names] using hn
  subst required
  rfl

/-- A name that is declared in the outermost scope hides what the context binds it to. -/
theorem State.Alike.declared (context : Context) (name : String) (v : Value) :
    State.Alike (fun _ => True) [[]] context (context.insert name v)
      { State.start with scopes := Scopes.start.declare name v } .start := by
  refine .ofMeaning rfl rfl rfl rfl ?_ (by simp)
  intro n _
  simp only [State.value?, Scopes.find?_declare, Bindings.find?_insert]
  by_cases same : n = name
  · simp [State.start, Scopes.start, Scopes.find?, same]
  · simp [State.start, Scopes.start, Scopes.find?, same]

/-- A context acts as bindings of the outermost scope, and each of them as a declaration in front
of the program. -/
theorem Program.run_eq_runFrom_prelude (p : Program) (context : Context) (limit : Nat) :
    p.run context limit = p.runFrom (.prelude context) .empty limit ∧
      ∀ name l, Program.run context limit (.declare name (.literal l) :: p) =
        p.run (context.insert name l.value) limit := by
  have covered : Covered (fun _ => True) [[]] [] (blockFreeNames [] p) (blockOptional p) :=
    ⟨by simp, by simp, by simp⟩
  constructor
  · have alike : State.Alike (fun _ => True) [[]] context .empty .start (.prelude context) := by
      refine .ofMeaning rfl rfl rfl rfl ?_ (by simp)
      intro n _
      simp [State.value?, State.prelude, State.start, Scopes.start, Scopes.find?]
    exact p.runFrom_congr alike covered limit
  · intro name l
    have first : Program.run context limit (.declare name (.literal l) :: p) =
        p.runFrom { State.start with scopes := Scopes.start.declare name l.value } context
          limit := by
      rw [Program.run, Program.runFrom_eq, Program.runFrom_eq, runBlock, Stmt.run, Expr.eval,
        Run.outcome_bind, Run.outcome_bind]
      rfl
    rw [first]
    exact p.runFrom_congr (.declared context name l.value) covered limit

end Stencil
