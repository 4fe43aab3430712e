import Stencil.Proofs.Render.Outcome

/-!
# Two runs side by side

Rules for comparing two evaluations, or two runs, from two states. The results have to be the same,
and where one run has no outcome the other must have none either; what is to be said about the final
states is up to a postcondition. There is one rule for each way in which evaluations and runs are
put together, so a comparison of two programs never looks at states of its own accord.

An evaluation changes nothing but the output. `Eval.Lockstep` says so of both evaluations, in
addition to comparing them, and so it also tells what a single evaluation does to its state.
-/

namespace Stencil

@[simp] theorem State.write_empty (s : State) : s.write "" = s := by
  simp [State.write]

@[simp] theorem State.write_write (s : State) (a b : String) :
    (s.write a).write b = s.write (a ++ b) := by
  simp [State.write, String.append_assoc]

@[simp] theorem State.write_scopes (s : State) (text : String) : (s.write text).scopes = s.scopes :=
  rfl

namespace Eval

variable {α β : Type} {s₁ s₂ : State} {stops : Stop → Prop}

/-- Two evaluations that yield the same and write the same, and change nothing else. Where they
stop, `stops` holds of the reason. -/
def Lockstep (e₁ e₂ : Eval α) (s₁ s₂ : State) (stops : Stop → Prop) : Prop :=
  ∃ result text, e₁.outcome s₁ = (result, s₁.write text) ∧
    e₂.outcome s₂ = (result, s₂.write text) ∧ ∀ stop, result = .error stop → stops stop

namespace Lockstep

theorem pure (a : α) : Lockstep (Pure.pure a) (Pure.pure a) s₁ s₂ stops :=
  ⟨.ok a, "", by simp, by simp, by simp⟩

theorem throw {stop : Stop} (h : stops stop) :
    Lockstep (α := α) (MonadExcept.throw stop) (MonadExcept.throw stop) s₁ s₂ stops := by
  refine ⟨.error stop, "", by simp, by simp, ?_⟩
  intro stop' eq
  cases eq
  exact h

theorem write (v : Value) : Lockstep (Eval.write v) (Eval.write v) s₁ s₂ stops :=
  ⟨.ok (), v.text, rfl, rfl, by simp⟩

theorem ofExcept (h : ∀ failure, stops (.failed failure)) (r : Except Failure α) :
    Lockstep (Eval.ofExcept r) (Eval.ofExcept r) s₁ s₂ stops := by
  cases r with
  | ok a => exact .pure a
  | error failure => exact .throw (h failure)

theorem mono {stops' : Stop → Prop} {e₁ e₂ : Eval α} (h : Lockstep e₁ e₂ s₁ s₂ stops)
    (weaken : ∀ stop, stops stop → stops' stop) : Lockstep e₁ e₂ s₁ s₂ stops' := by
  obtain ⟨result, text, run₁, run₂, hstops⟩ := h
  exact ⟨result, text, run₁, run₂, fun stop eq => weaken stop (hstops stop eq)⟩

theorem bind {e₁ e₂ : Eval α} {f₁ f₂ : α → Eval β} (h : Lockstep e₁ e₂ s₁ s₂ stops)
    (next : ∀ a text, Lockstep (f₁ a) (f₂ a) (s₁.write text) (s₂.write text) stops) :
    Lockstep (e₁ >>= f₁) (e₂ >>= f₂) s₁ s₂ stops := by
  obtain ⟨result, text, run₁, run₂, hstops⟩ := h
  rw [Lockstep]
  simp only [outcome_bind, run₁, run₂]
  cases result with
  | error stop =>
      refine ⟨.error stop, text, rfl, rfl, ?_⟩
      intro stop' eq
      cases eq
      exact hstops stop rfl
  | ok a =>
      obtain ⟨result', text', run₁', run₂', hstops'⟩ := next a text
      exact ⟨result', text ++ text', by simpa using run₁', by simpa using run₂', hstops'⟩

theorem map {e₁ e₂ : Eval α} (f : α → β) (h : Lockstep e₁ e₂ s₁ s₂ stops) :
    Lockstep (f <$> e₁) (f <$> e₂) s₁ s₂ stops := by
  rw [map_eq_pure_bind, map_eq_pure_bind]
  exact h.bind fun a _ => .pure (f a)

theorem writeString (h : ∀ failure, stops (.failed failure)) (function : String) (v : Value) :
    Lockstep (Eval.writeString function v) (Eval.writeString function v) s₁ s₂ stops := by
  rw [Eval.writeString]
  by_cases notString : v.asString?.isNone
  · simp only [notString, if_true]
    exact .throw (h _)
  · simp only [notString]
    exact (Lockstep.write v).bind fun _ _ => .pure _

/-- A name is looked up alike where it means the same. It stops an evaluation where it means
nothing. -/
theorem lookup {context₁ context₂ : Context} {name : String}
    (same : (s₁.scopes.find? name <|> context₁.find? name) =
      (s₂.scopes.find? name <|> context₂.find? name))
    (h : (s₁.scopes.find? name <|> context₁.find? name) = none → stops (.unbound name)) :
    Lockstep (Eval.lookup context₁ name) (Eval.lookup context₂ name) s₁ s₂ stops := by
  rw [Lockstep, outcome_lookup, outcome_lookup, ← same]
  cases found : s₁.scopes.find? name <|> context₁.find? name with
  | some v => exact ⟨.ok v, "", by simp, by simp, by simp⟩
  | none =>
      refine ⟨.error (.unbound name), "", by simp, by simp, ?_⟩
      intro stop eq
      cases eq
      exact h found

/-- What is missing does not stop an evaluation that can do without. -/
theorem orNone {e₁ e₂ : Eval Value} (h : Lockstep e₁ e₂ s₁ s₂ stops) :
    Lockstep (Eval.orNone e₁) (Eval.orNone e₂) s₁ s₂
      (fun stop => stops stop ∧ isMissing stop = false) := by
  obtain ⟨result, text, run₁, run₂, hstops⟩ := h
  rw [Lockstep, outcome_orNone, outcome_orNone, run₁, run₂]
  cases result with
  | ok v => exact ⟨.ok v, text, rfl, rfl, by simp⟩
  | error stop =>
      refine ⟨_, text, rfl, rfl, ?_⟩
      intro stop' eq
      cases missing : isMissing stop with
      | true => simp [missing] at eq
      | false =>
          simp only [missing, Bool.false_eq_true, if_false, Except.error.injEq] at eq
          subst eq
          exact ⟨hstops stop rfl, missing⟩

end Lockstep

end Eval

namespace Run

variable {α β : Type} {s₁ s₂ : State} {post : Except Stop α → State → State → Prop}

/-- Two outcomes with the same result, or none at all; `post` holds of the result and the states. -/
inductive SameEnd (post : Except Stop α → State → State → Prop) :
    Option (Except Stop α × State) → Option (Except Stop α × State) → Prop
  | none : SameEnd post none none
  | some {result : Except Stop α} {t₁ t₂ : State} (h : post result t₁ t₂) :
      SameEnd post (some (result, t₁)) (some (result, t₂))

/-- Two runs that end with the same result and states of which `post` holds, or not at all. -/
def Lockstep (r₁ r₂ : Run α) (s₁ s₂ : State) (post : Except Stop α → State → State → Prop) : Prop :=
  SameEnd post (r₁.outcome s₁) (r₂.outcome s₂)

/-- The postcondition of a run that keeps a relation between the states. Where it stops, `stops`
holds of the reason. -/
def Keeps (rel : State → State → Prop) (stops : Stop → Prop) (result : Except Stop α)
    (t₁ t₂ : State) : Prop :=
  rel t₁ t₂ ∧ ∀ stop, result = .error stop → stops stop

theorem Keeps.ok {rel : State → State → Prop} {stops : Stop → Prop} {a : α} {t₁ t₂ : State}
    (h : rel t₁ t₂) : Keeps rel stops (.ok a) t₁ t₂ :=
  ⟨h, by simp⟩

/-- A run that has stopped stops whatever was to follow. -/
theorem Keeps.error {rel : State → State → Prop} {stops : Stop → Prop} {stop : Stop} {t₁ t₂ : State}
    (h : Keeps (α := α) rel stops (.error stop) t₁ t₂) :
    Keeps (α := β) rel stops (.error stop) t₁ t₂ := by
  refine ⟨h.1, ?_⟩
  intro stop' eq
  cases eq
  exact h.2 stop rfl

namespace Lockstep

theorem pure {a : α} (h : post (.ok a) s₁ s₂) : Lockstep (Pure.pure a) (Pure.pure a) s₁ s₂ post :=
  .some h

theorem mono {post' : Except Stop α → State → State → Prop} {r₁ r₂ : Run α}
    (h : Lockstep r₁ r₂ s₁ s₂ post)
    (weaken : ∀ result t₁ t₂, post result t₁ t₂ → post' result t₁ t₂) :
    Lockstep r₁ r₂ s₁ s₂ post' := by
  rw [Lockstep] at h ⊢
  generalize r₁.outcome s₁ = o₁, r₂.outcome s₂ = o₂ at h ⊢
  cases h with
  | none => exact .none
  | some h => exact .some (weaken _ _ _ h)

theorem bind {r₁ r₂ : Run α} {f₁ f₂ : α → Run β} {post' : Except Stop β → State → State → Prop}
    (h : Lockstep r₁ r₂ s₁ s₂ post)
    (next : ∀ a t₁ t₂, post (.ok a) t₁ t₂ → Lockstep (f₁ a) (f₂ a) t₁ t₂ post')
    (stopped : ∀ stop t₁ t₂, post (.error stop) t₁ t₂ → post' (.error stop) t₁ t₂) :
    Lockstep (r₁ >>= f₁) (r₂ >>= f₂) s₁ s₂ post' := by
  rw [Lockstep] at h ⊢
  rw [outcome_bind, outcome_bind]
  generalize r₁.outcome s₁ = o₁, r₂.outcome s₂ = o₂ at h ⊢
  cases h with
  | none => exact .none
  | @some result t₁ t₂ h =>
      cases result with
      | ok a => exact next a t₁ t₂ h
      | error stop => exact .some (stopped stop t₁ t₂ h)

theorem ofEval {e₁ e₂ : Eval α} {stops : Stop → Prop} (h : Eval.Lockstep e₁ e₂ s₁ s₂ stops)
    (then_ : ∀ result text, (∀ stop, result = .error stop → stops stop) →
      post result (s₁.write text) (s₂.write text)) :
    Lockstep (Run.ofEval e₁) (Run.ofEval e₂) s₁ s₂ post := by
  obtain ⟨result, text, run₁, run₂, hstops⟩ := h
  rw [Lockstep, outcome_ofEval, outcome_ofEval, run₁, run₂]
  exact .some (then_ result text hstops)

theorem inScope {scope : Bindings} {body₁ body₂ : Run α}
    (h : Lockstep body₁ body₂ (s₁.enter scope) (s₂.enter scope)
      fun result t₁ t₂ => post result t₁.exit t₂.exit) :
    Lockstep (Run.inScope scope body₁) (Run.inScope scope body₂) s₁ s₂ post := by
  rw [Lockstep] at h ⊢
  rw [outcome_inScope, outcome_inScope]
  generalize body₁.outcome _ = o₁, body₂.outcome _ = o₂ at h ⊢
  cases h with
  | none => exact .none
  | some h => exact .some h

theorem inLoop {loop₁ loop₂ : Run α}
    (h : Lockstep loop₁ loop₂ s₁.inLoop s₂.inLoop
      fun result t₁ t₂ => post result t₁.outOfLoop t₂.outOfLoop) :
    Lockstep (Run.inLoop loop₁) (Run.inLoop loop₂) s₁ s₂ post := by
  rw [Lockstep] at h ⊢
  rw [outcome_inLoop, outcome_inLoop]
  generalize loop₁.outcome _ = o₁, loop₂.outcome _ = o₂ at h ⊢
  cases h with
  | none => exact .none
  | some h => exact .some h

variable {rel : State → State → Prop} {stops : Stop → Prop}

/-- A loop over values keeps what each of its rounds keeps. -/
theorem forEach {body₁ body₂ : Value → Run Flow}
    (round : ∀ v t₁ t₂, rel t₁ t₂ → Lockstep (body₁ v) (body₂ v) t₁ t₂ (Keeps rel stops))
    (vs : List Value) (h : rel s₁ s₂) :
    Lockstep (Run.forEach body₁ vs) (Run.forEach body₂ vs) s₁ s₂ (Keeps rel stops) := by
  induction vs generalizing s₁ s₂ with
  | nil => exact .pure (.ok h)
  | cons v vs ih =>
      refine (round v s₁ s₂ h).bind ?_ fun _ _ _ ended => ended.error
      intro flow t₁ t₂ ended
      cases flow with
      | leave => exact .pure (.ok ended.1)
      | normal => exact ih ended.1
      | next => exact ih ended.1

/-- A conditional loop keeps what its condition and each of its rounds keep. -/
theorem whileTrue {cond₁ cond₂ : Run Bool} {body₁ body₂ : Run Flow}
    (check : ∀ t₁ t₂, rel t₁ t₂ → Lockstep cond₁ cond₂ t₁ t₂ (Keeps rel stops))
    (round : ∀ t₁ t₂, rel t₁ t₂ → Lockstep body₁ body₂ t₁ t₂ (Keeps rel stops))
    (limit : Nat) (h : rel s₁ s₂) :
    Lockstep (Run.whileTrue cond₁ body₁ limit) (Run.whileTrue cond₂ body₂ limit) s₁ s₂
      (Keeps rel stops) := by
  induction limit generalizing s₁ s₂ with
  | zero => exact .none
  | succ limit ih =>
      refine (check s₁ s₂ h).bind ?_ fun _ _ _ ended => ended.error
      intro holds t₁ t₂ checked
      cases holds with
      | false => exact .pure (.ok checked.1)
      | true =>
          refine (round t₁ t₂ checked.1).bind ?_ fun _ _ _ ended => ended.error
          intro flow u₁ u₂ ended
          cases flow with
          | leave => exact .pure (.ok ended.1)
          | normal => exact ih ended.1
          | next => exact ih ended.1

theorem control {keyword : String} {flow : Flow} (loops : s₁.loops = s₂.loops) (h : rel s₁ s₂)
    (hstops : ∀ failure, stops (.failed failure)) :
    Lockstep (Run.control keyword flow) (Run.control keyword flow) s₁ s₂ (Keeps rel stops) := by
  rw [Lockstep, outcome_control, outcome_control, ← loops]
  refine .some ⟨h, ?_⟩
  intro stop eq
  split at eq
  · cases eq
    exact hstops _
  · cases eq

end Lockstep

end Run

end Stencil
