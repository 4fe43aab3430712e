import Stencil.Proofs.Render.Silent
import Stencil.Proofs.Render.Simulation

/-!
# What a body leaves as it was

A body changes the scopes around it only as far as it assigns to names: it neither opens nor closes
one of them, and no name appears in one, except that a name of the context may come to be shadowed
in the outermost scope. It is counted in no more loops after it than before, and what has been
written stays written.

All this is a preorder on states, so a run keeps to it if each of its parts does, however the run
ends. Inside of a body nothing is said of the innermost scope, which is the body's own and is gone
when the body is left.
-/

namespace Stencil

/-! ### Runs that keep to a preorder -/

namespace Run

variable {α β : Type} {rel : State → State → Prop}

/-- A run that leaves a state related to the one that it started from, however it ends. -/
def Moves (rel : State → State → Prop) (r : Run α) : Prop :=
  ∀ s result t, r.outcome s = some (result, t) → rel s t

namespace Moves

theorem mono {rel' : State → State → Prop} {r : Run α} (h : Moves rel r)
    (weaken : ∀ s t, rel s t → rel' s t) : Moves rel' r :=
  fun s result t ran => weaken s t (h s result t ran)

theorem ofEval {e : Eval α} {stops : State → Stop → Prop}
    (h : ∀ s, Eval.Lockstep e e s s (stops s)) (writes : ∀ s text, rel s (s.write text)) :
    Moves rel (Run.ofEval e) := by
  intro s result t ran
  obtain ⟨result', text, ran', -, -⟩ := h s
  rw [outcome_ofEval, ran'] at ran
  cases ran
  exact writes s text

theorem ofModify {f : State → State} (h : ∀ s, rel s (f s)) : Moves rel (modify f : Run Unit) := by
  intro s result t ran
  rw [outcome_modify] at ran
  cases ran
  exact h s

theorem inScope {inside : State → State → Prop} {scope : Bindings} {body : Run α}
    (h : Moves inside body)
    (leave : ∀ s t, inside (s.enter scope) t → rel s t.exit) :
    Moves rel (Run.inScope scope body) := by
  intro s result t ran
  rw [outcome_inScope, Option.map_eq_some_iff] at ran
  obtain ⟨⟨result', t'⟩, ran', eq⟩ := ran
  cases eq
  exact leave s t' (h _ _ _ ran')

theorem inLoop {inside : State → State → Prop} {loop : Run α} (h : Moves inside loop)
    (leave : ∀ s t, inside s.inLoop t → rel s t.outOfLoop) : Moves rel (Run.inLoop loop) := by
  intro s result t ran
  rw [outcome_inLoop, Option.map_eq_some_iff] at ran
  obtain ⟨⟨result', t'⟩, ran', eq⟩ := ran
  cases eq
  exact leave s t' (h _ _ _ ran')

theorem exhausted : Moves rel (Run.exhausted (α := α)) := by
  intro s result t ran
  rw [outcome_exhausted] at ran
  cases ran

section Preorder

variable [IsPreorder State rel]

theorem pure (a : α) : Moves rel (Pure.pure a) := by
  intro s result t ran
  rw [outcome_pure] at ran
  cases ran
  exact refl_of rel s

theorem control (keyword : String) (flow : Flow) : Moves rel (Run.control keyword flow) := by
  intro s result t ran
  rw [outcome_control] at ran
  cases ran
  exact refl_of rel s

theorem bind {r : Run α} {f : α → Run β} (h : Moves rel r) (next : ∀ a, Moves rel (f a)) :
    Moves rel (r >>= f) := by
  intro s result t ran
  rw [outcome_bind] at ran
  cases first : r.outcome s with
  | none =>
      rw [first] at ran
      cases ran
  | some end_ =>
      obtain ⟨result', u⟩ := end_
      have before := h s result' u first
      rw [first] at ran
      cases result' with
      | ok a => exact trans_of rel before (next a u result t ran)
      | error stop =>
          cases ran
          exact before

/-- A run whose result does not matter, with a result of its own. -/
theorem andThen {r : Run α} (h : Moves rel r) (b : β) :
    Moves rel (do
      let _ ← r
      return b) :=
  h.bind fun _ => .pure b

/-- A loop over values keeps to what each of its rounds keeps to. -/
theorem forEach {body : Value → Run Flow} (round : ∀ v, Moves rel (body v)) (vs : List Value) :
    Moves rel (Run.forEach body vs) := by
  induction vs with
  | nil => exact .pure ()
  | cons v vs ih =>
      refine (round v).bind ?_
      intro flow
      cases flow with
      | leave => exact .pure ()
      | normal => exact ih
      | next => exact ih

/-- A conditional loop keeps to what its condition and each of its rounds keep to. -/
theorem whileTrue {cond : Run Bool} {body : Run Flow} (check : Moves rel cond)
    (round : Moves rel body) (limit : Nat) : Moves rel (Run.whileTrue cond body limit) := by
  induction limit with
  | zero => exact .exhausted
  | succ limit ih =>
      refine check.bind ?_
      intro holds
      cases holds with
      | false => exact .pure ()
      | true =>
          refine round.bind ?_
          intro flow
          cases flow with
          | leave => exact .pure ()
          | normal => exact ih
          | next => exact ih

end Preorder

end Moves

end Run

/-! ### What assignments may change -/

mutual

/-- The names that a statement assigns to, at any depth. -/
def Stmt.assigns : Stmt → List String
  | .emitText _ => []
  | .emit _ => []
  | .declare _ _ => []
  | .assign name _ _ => [name]
  | .expr _ => []
  | .branch _ body otherwise => blockAssigns body ++ otherwise.assigns
  | .forLoop _ _ body => blockAssigns body
  | .whileLoop _ body => blockAssigns body
  | .breakLoop => []
  | .continueLoop => []

def Else.assigns : Else → List String
  | .nothing => []
  | .block body => blockAssigns body
  | .elif _ body otherwise => blockAssigns body ++ otherwise.assigns

def blockAssigns : List Stmt → List String
  | [] => []
  | s :: ss => s.assigns ++ blockAssigns ss

end

variable {context : Context} {assigned : List String}

/-- Bindings before and after some assignments: no name is lost, no name is new but those that may
be `gained`, and a name that is not assigned to means what it meant. -/
structure Bindings.Revised (gained : String → Prop) (assigned : List String)
    (b b' : Bindings) : Prop where
  kept : ∀ n, b.contains n → b'.contains n
  new : ∀ n, b'.contains n → b.contains n ∨ gained n
  same : ∀ n, n ∉ assigned → b'.find? n = b.find? n

namespace Bindings.Revised

variable {gained : String → Prop}

instance : IsPreorder Bindings (Revised gained assigned) where
  refl _ := ⟨fun _ h => h, fun _ h => .inl h, fun _ _ => rfl⟩
  trans a b c ab bc := by
    refine ⟨fun n h => bc.kept n (ab.kept n h), ?_, ?_⟩
    · intro n h
      rcases bc.new n h with h | h
      · exact ab.new n h
      · exact .inr h
    · intro n h
      rw [bc.same n h, ab.same n h]

theorem insert {name : String} (b : Bindings) (value : Value)
    (present : b.contains name ∨ gained name) (h : name ∈ assigned) :
    Revised gained assigned b (b.insert name value) := by
  have found (n : String) := b.find?_insert name n value
  refine ⟨?_, ?_, ?_⟩
  · intro n bound
    rw [contains_eq_isSome] at bound ⊢
    rw [found]
    split
    · rfl
    · exact bound
  · intro n bound
    rw [contains_eq_isSome, found] at bound
    split at bound
    · next eq => exact eq ▸ present
    · exact .inl bound
  · intro n notAssigned
    have different : n ≠ name := by
      rintro rfl
      exact notAssigned h
    rw [found, if_neg different]

end Bindings.Revised

/-- Scopes before and after some assignments, one by one. The outermost scope may have gained names
that the context binds, the others have gained none. -/
structure Scopes.Framed (context : Context) (assigned : List String) (s t : Scopes) : Prop where
  inner : List.Forall₂ (Bindings.Revised (fun _ => False) assigned) s.inner t.inner
  top : Bindings.Revised (fun n => context.contains n) assigned s.top t.top

/-- The same of the scopes around a body, seen from inside of it. -/
def Scopes.FramedOutside (context : Context) (assigned : List String) (s t : Scopes) : Prop :=
  s.inner ≠ [] → t.inner ≠ [] ∧ s.pop.Framed context assigned t.pop

namespace Scopes

theorem forall₂_trans {α : Type} {rel : α → α → Prop} [IsTrans α rel] {as bs cs : List α}
    (ab : List.Forall₂ rel as bs) (bc : List.Forall₂ rel bs cs) : List.Forall₂ rel as cs := by
  induction ab generalizing cs with
  | nil => exact bc
  | cons ab _ ih =>
      cases bc with
      | cons bc rest => exact .cons (trans_of rel ab bc) (ih rest)

instance : IsPreorder Scopes (Framed context assigned) where
  refl s := ⟨List.forall₂_refl s.inner, refl_of _ s.top⟩
  trans _ _ _ ab bc := ⟨forall₂_trans ab.inner bc.inner, trans_of _ ab.top bc.top⟩

instance : IsPreorder Scopes (FramedOutside context assigned) where
  refl s h := ⟨h, refl_of _ s.pop⟩
  trans a b c ab bc h := by
    obtain ⟨inside, outer⟩ := ab h
    obtain ⟨inside', outer'⟩ := bc inside
    exact ⟨inside', trans_of _ outer outer'⟩

/-- What holds of all scopes holds of those around the innermost one. -/
theorem Framed.outside {s t : Scopes} (h : s.Framed context assigned t) :
    s.FramedOutside context assigned t := by
  obtain ⟨inner, top⟩ := s
  obtain ⟨inner', top'⟩ := t
  obtain ⟨paired, revised⟩ := h
  intro inside
  cases paired with
  | nil => exact absurd rfl inside
  | cons _ rest => exact ⟨List.cons_ne_nil _ _, rest, revised⟩

theorem FramedOutside.leave {s t : Scopes} {scope : Bindings}
    (h : (s.push scope).FramedOutside context assigned t) : s.Framed context assigned t.pop :=
  (h (List.cons_ne_nil scope s.inner)).2

/-- A declaration in a body changes no scope around it. -/
theorem declare_outside (s : Scopes) (name : String) (value : Value) :
    s.FramedOutside context assigned (s.declare name value) := by
  obtain ⟨inner, top⟩ := s
  intro inside
  cases inner with
  | nil => exact absurd rfl inside
  | cons scope scopes => exact ⟨List.cons_ne_nil _ _, refl_of _ (Scopes.mk scopes top)⟩

theorem update?_revised {name : String} {value : Value} {inner inner' : List Bindings}
    (h : name ∈ assigned) (found : update? name value inner = some inner') :
    List.Forall₂ (Bindings.Revised (fun _ => False) assigned) inner inner' := by
  induction inner generalizing inner' with
  | nil => cases found
  | cons scope scopes ih =>
      rw [update?] at found
      split at found
      · next bound =>
        cases found
        exact .cons (.insert scope value (.inl bound) h) (List.forall₂_refl scopes)
      · obtain ⟨rest, further, rfl⟩ := Option.map_eq_some_iff.1 found
        exact .cons (refl_of _ scope) (ih further)

/-- An assignment in a body changes the scopes around it at its own name, and binds the name in none
of them but the outermost one. -/
theorem assign_outside {name : String} (h : name ∈ assigned) (s : Scopes) (value : Value) :
    s.FramedOutside context assigned (s.assign context name value) := by
  obtain ⟨inner, top⟩ := s
  rw [assign]
  split
  · next inner' found =>
    have revised : (Scopes.mk inner top).Framed context assigned ⟨inner', top⟩ :=
      ⟨update?_revised h found, refl_of _ top⟩
    exact revised.outside
  · split
    · next bound =>
      rw [Bool.or_eq_true] at bound
      have revised : (Scopes.mk inner top).Framed context assigned ⟨inner, top.insert name value⟩ :=
        ⟨List.forall₂_refl inner, .insert top value bound h⟩
      exact revised.outside
    · exact declare_outside _ name value

end Scopes

/-- States before and after a run that is counted in as many loops as before, writes, and does to
the scopes what `rel` says. -/
structure State.Moved (rel : Scopes → Scopes → Prop) (s t : State) : Prop where
  scopes : rel s.scopes t.scopes
  loops : t.loops = s.loops
  output : ∃ text, t.output = s.output ++ text

namespace State.Moved

variable {rel : Scopes → Scopes → Prop}

instance [IsPreorder Scopes rel] : IsPreorder State (Moved rel) where
  refl s := ⟨refl_of rel s.scopes, rfl, "", by simp⟩
  trans a b c ab bc := by
    obtain ⟨first, ab'⟩ := ab.output
    obtain ⟨second, bc'⟩ := bc.output
    refine ⟨trans_of rel ab.scopes bc.scopes, bc.loops.trans ab.loops, first ++ second, ?_⟩
    rw [bc', ab', String.append_assoc]

theorem mono {rel' : Scopes → Scopes → Prop} {s t : State} (h : Moved rel s t)
    (weaken : rel s.scopes t.scopes → rel' s.scopes t.scopes) : Moved rel' s t :=
  ⟨weaken h.scopes, h.loops, h.output⟩

theorem setScopes {s : State} {scopes : Scopes} (h : rel s.scopes scopes) :
    Moved rel s { s with scopes } :=
  ⟨h, rfl, "", by simp⟩

variable [IsPreorder Scopes rel]

theorem write (s : State) (text : String) : Moved rel s (s.write text) :=
  ⟨refl_of rel s.scopes, rfl, text, rfl⟩

end State.Moved

/-! ### Running statements -/

/-- An expression as part of a run. -/
theorem Expr.eval_alone (e : Expr) (s : State) :
    Eval.Lockstep (e.eval context) (e.eval context) s s (StopsAt context s e.reads) :=
  e.eval_lockstep fun _ _ => rfl

namespace Run.Moves

variable {α : Type}

/-- A body changes the scopes around it as its statements do. -/
theorem inBody {scope : Bindings} {body : Run α}
    (h : Moves (State.Moved (Scopes.FramedOutside context assigned)) body) :
    Moves (State.Moved (Scopes.Framed context assigned)) (Run.inScope scope body) :=
  h.inScope fun _ _ moved => ⟨moved.scopes.leave, moved.loops, moved.output⟩

/-- A body within a body. -/
theorem inBodyOutside {scope : Bindings} {body : Run α}
    (h : Moves (State.Moved (Scopes.FramedOutside context assigned)) body) :
    Moves (State.Moved (Scopes.FramedOutside context assigned)) (Run.inScope scope body) :=
  h.inBody.mono fun _ _ moved => moved.mono Scopes.Framed.outside

theorem inLoopMoved {rel : Scopes → Scopes → Prop} {loop : Run α}
    (h : Moves (State.Moved rel) loop) : Moves (State.Moved rel) (Run.inLoop loop) := by
  refine h.inLoop ?_
  intro s t moved
  exact ⟨moved.scopes, congrArg (· - 1) moved.loops, moved.output⟩

end Run.Moves

section Statements

variable {limit : Nat}

mutual

/-- A statement in a body that assigns only to the given names. -/
theorem Stmt.run_moves : ∀ (s : Stmt), s.assigns ⊆ assigned →
    Run.Moves (State.Moved (Scopes.FramedOutside context assigned)) (s.run context limit)
  | .emitText text, _ => by
    rw [Stmt.run]
    exact (Run.Moves.ofModify fun s => .write s text).andThen _
  | .emit e, _ => by
    rw [Stmt.run]
    exact (Run.Moves.ofEval (fun s => (e.eval_alone s).bind fun v _ => .write v) .write).andThen _
  | .declare name value, _ => by
    rw [Stmt.run]
    refine (Run.Moves.ofEval value.eval_alone .write).bind ?_
    intro v
    exact (Run.Moves.ofModify fun s => .setScopes (s.scopes.declare_outside name v)).andThen _
  | .assign name op value, subset => by
    rw [Stmt.run]
    have listed : name ∈ assigned := subset (by simp [Stmt.assigns])
    refine (Run.Moves.ofEval (fun s => assigned_lockstep fun _ _ => rfl) .write).bind ?_
    intro v
    exact (Run.Moves.ofModify fun s => .setScopes (s.scopes.assign_outside listed v)).andThen _
  | .expr e, _ => by
    rw [Stmt.run]
    exact (Run.Moves.ofEval e.eval_alone .write).andThen _
  | .branch cond body otherwise, subset => by
    rw [Stmt.run]
    rw [Stmt.assigns, List.append_subset] at subset
    refine (Run.Moves.ofEval cond.eval_alone .write).bind ?_
    intro v
    split
    · exact (runBlock_moves body subset.1).inBodyOutside
    · exact otherwise.run_moves subset.2
  | .forLoop var iterable body, subset => by
    rw [Stmt.run]
    rw [Stmt.assigns] at subset
    refine (Run.Moves.ofEval iterable.eval_alone .write).bind ?_
    intro v
    have listed (s : State) : Eval.Lockstep (Eval.ofExcept v.items) (Eval.ofExcept v.items) s s
        fun _ => True := .ofExcept (fun _ => trivial) v.items
    refine (Run.Moves.ofEval listed .write).bind ?_
    intro items
    have round (item : Value) : Run.Moves (State.Moved (Scopes.FramedOutside context assigned))
        (Run.inScope (.ofList [(var, item)]) (runBlock context limit body)) :=
      (runBlock_moves body subset).inBodyOutside
    exact (Run.Moves.forEach round items).inLoopMoved.andThen _
  | .whileLoop cond body, subset => by
    rw [Stmt.run]
    rw [Stmt.assigns] at subset
    have check : Run.Moves (State.Moved (Scopes.FramedOutside context assigned))
        (Run.ofEval (Value.truthy <$> cond.eval context)) :=
      .ofEval (fun s => (cond.eval_alone s).map Value.truthy) .write
    have round : Run.Moves (State.Moved (Scopes.FramedOutside context assigned))
        (Run.inScope .empty (runBlock context limit body)) :=
      (runBlock_moves body subset).inBodyOutside
    exact (Run.Moves.whileTrue check round limit).inLoopMoved.andThen _
  | .breakLoop, _ => by
    rw [Stmt.run]
    exact .control "break" .leave
  | .continueLoop, _ => by
    rw [Stmt.run]
    exact .control "continue" .next

theorem Else.run_moves : ∀ (e : Else), e.assigns ⊆ assigned →
    Run.Moves (State.Moved (Scopes.FramedOutside context assigned)) (e.run context limit)
  | .nothing, _ => by
    rw [Else.run]
    exact .pure _
  | .block body, subset => by
    rw [Else.run]
    exact (runBlock_moves body subset).inBodyOutside
  | .elif cond body otherwise, subset => by
    rw [Else.run]
    rw [Else.assigns, List.append_subset] at subset
    refine (Run.Moves.ofEval cond.eval_alone .write).bind ?_
    intro v
    split
    · exact (runBlock_moves body subset.1).inBodyOutside
    · exact otherwise.run_moves subset.2

/-- Statements in a body that assign only to the given names. -/
theorem runBlock_moves : ∀ (ss : List Stmt), blockAssigns ss ⊆ assigned →
    Run.Moves (State.Moved (Scopes.FramedOutside context assigned)) (runBlock context limit ss)
  | [], _ => by
    rw [runBlock]
    exact .pure _
  | s :: ss, subset => by
    rw [runBlock]
    rw [blockAssigns, List.append_subset] at subset
    refine (s.run_moves subset.1).bind ?_
    intro flow
    cases flow with
    | normal => exact runBlock_moves ss subset.2
    | leave => exact .pure _
    | next => exact .pure _

end

end Statements

/-- A body, however it ends, leaves as many scopes as there were, counted in as many loops: it has
changed only the names in them that it assigns to, and added none but names of the context to the
outermost one. An evaluation only writes, and if it calls no function that writes, not even that. -/
theorem Run.moved_of_inScope (context : Context) :
    (∀ (limit : Nat) (scope : Bindings) (body : List Stmt) (s : State)
        (result : Except Stop Flow) (t : State),
      (Run.inScope scope (runBlock context limit body)).outcome s = some (result, t) →
      State.Moved (Scopes.Framed context (blockAssigns body)) s t) ∧
    (∀ (e : Expr) (s : State), ∃ result text,
      (e.eval context).outcome s = (result, s.write text) ∧ (Silent e.calls → text = "")) := by
  constructor
  · intro limit scope body
    exact (runBlock_moves body (List.Subset.refl _)).inBody
  · intro e s
    obtain ⟨result, text, ran⟩ := e.eval_writes s
    by_cases silent : Silent e.calls
    · have quiet : ((e.eval context).outcome s).2 = s := Expr.eval_quiet silent s
      rw [ran] at quiet
      refine ⟨result, "", ?_, fun _ => rfl⟩
      rw [ran, State.write_empty]
      exact Prod.ext rfl quiet
    · exact ⟨result, text, ran, fun h => absurd h silent⟩

/-- A body that changes a name around it, shadows one of the context, writes, and stops. -/
def stopping : List Stmt :=
  [.assign "x" .set (.literal (.int 1)), .assign "c" .set (.var "x"), .emitText "a", .breakLoop]

theorem Run.moved_of_stopping :
    ∃ t, (Run.inScope .empty (runBlock (.ofList [("c", .none)]) 1 stopping)).outcome
        ⟨⟨[.ofList [("x", .none)]], .empty⟩, "<", 0⟩ =
          some (.error (.failed (.outsideLoop "break")), t) ∧
      t.output = "<a" ∧ t.scopes.top.names = ["c"] ∧
      State.Moved (Scopes.Framed (.ofList [("c", .none)]) ["x", "c"])
        ⟨⟨[.ofList [("x", .none)]], .empty⟩, "<", 0⟩ t ∧
      ∃ result, (Expr.eval (.ofList [("c", .none)]) (.index (.var "x") (.var "y"))).outcome t =
        (result, t) := by
  refine ⟨⟨⟨[.ofList [("x", .int 1)]], .ofList [("c", .int 1)]⟩, "<a", 0⟩, rfl, rfl, rfl, ?_, ?_⟩
  · exact (Run.moved_of_inScope (.ofList [("c", .none)])).1 1 .empty stopping _ _ _ rfl
  · obtain ⟨result, text, ran, quiet⟩ :=
      (Run.moved_of_inScope (.ofList [("c", .none)])).2 (.index (.var "x") (.var "y"))
        ⟨⟨[.ofList [("x", .int 1)]], .ofList [("c", .int 1)]⟩, "<a", 0⟩
    rw [quiet (by simp [Silent, Expr.calls]), State.write_empty] at ran
    exact ⟨result, ran⟩

end Stencil
