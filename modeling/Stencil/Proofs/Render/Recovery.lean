import Stencil.Proofs.Render.Silent

/-!
# Doing without what is missing

A call of `default` goes on where its first argument stops for want of a name or a key, as if the
argument had been `none`. An evaluation changes no scope and enters no loop, so there is nothing to
take back of these. What it has written before it stops is not taken back: it depends on the
argument and on what names mean alone, and it is in the output from there on.
-/

namespace Stencil

namespace State

variable {s : State} {text : String}

/-- Only the empty text leaves the output as it was. -/
theorem write_eq_self : s.write text = s ↔ text = "" := by
  constructor
  · intro same
    have output : s.output ++ text = s.output ++ "" := by
      rw [String.append_empty]
      exact congrArg State.output same
    exact (String.append_right_inj s.output).1 output
  · rintro rfl
    exact s.write_empty

end State

/-- What an evaluation comes to, and what it writes, depends on the scopes alone. -/
theorem Expr.outcome_of_scopes {context : Context} {e : Expr} {s s' : State}
    {result : Except Stop Value} {text : String}
    (ran : (e.eval context).outcome s = (result, s.write text)) (same : s'.scopes = s.scopes) :
    (e.eval context).outcome s' = (result, s'.write text) := by
  have alike : SameOn context context s s' (e.reads ++ e.optional) := by
    intro n _
    rw [State.value?, State.value?, same]
  obtain ⟨result', text', ran₁, ran₂, -⟩ := e.eval_lockstep alike
  obtain ⟨rfl, written⟩ := Prod.mk.inj (ran.symm.trans ran₁)
  have output : s.output ++ text = s.output ++ text' := congrArg State.output written
  rw [ran₂, (String.append_right_inj s.output).1 output]

/-- Where the first argument of `default` is missing, the call goes on as it does with `none` in its
place. The scopes and the loops are those from before the argument; the output is longer by what the
evaluation has written, which is the same from all states with these scopes. So the state is the one
from before if and only if nothing has been written, as when the argument calls no function that
writes. -/
theorem Expr.outcome_default_of_missing {context : Context} {e : Expr} {s t : State} {stop : Stop}
    (stops : (e.eval context).outcome s = (.error stop, t)) (missing : Eval.isMissing stop)
    (args : List Expr) :
    (Eval.orNone (e.eval context)).outcome s = (.ok .none, t) ∧
      ((Expr.call Builtin.default.name (e :: args)).eval context).outcome s =
        ((Expr.call Builtin.default.name (.literal .none :: args)).eval context).outcome t ∧
      t.scopes = s.scopes ∧ t.loops = s.loops ∧
      ∃ text, t.output = s.output ++ text ∧ (t = s ↔ text = "") ∧ (Silent e.calls → text = "") ∧
        ∀ s' : State, s'.scopes = s.scopes →
          (e.eval context).outcome s' = (.error stop, s'.write text) := by
  obtain ⟨result, text, ran⟩ : ∃ result text, (e.eval context).outcome s = (result, s.write text) :=
    e.eval_writes s
  obtain ⟨rfl, rfl⟩ := Prod.mk.inj (stops.symm.trans ran)
  have recovers : (Eval.orNone (e.eval context)).outcome s = (.ok .none, s.write text) := by
    rw [Eval.outcome_orNone, ran]
    simp only [missing, if_true]
  have given : (Eval.orNone ((Expr.literal .none).eval context)).outcome (s.write text) =
      (.ok .none, s.write text) := by
    rw [Expr.eval]
    rfl
  refine ⟨recovers, ?_, rfl, rfl, text, rfl, State.write_eq_self, ?_, ?_⟩
  · rw [Expr.eval_default, Expr.eval_default, Eval.outcome_bind, Eval.outcome_bind, recovers, given]
  · intro silent
    have quiet : ((e.eval context).outcome s).2 = s := Expr.eval_quiet silent s
    rw [ran] at quiet
    exact State.write_eq_self.1 quiet
  · intro s' same
    exact Expr.outcome_of_scopes ran same

/-- A list that writes before it stops at a name that nothing binds. -/
def partlyWritten : Expr := .list [.call "emit" [.literal (.string "a")], .var "missing"]

theorem Expr.default_partlyWritten :
    ((Expr.call "default" [partlyWritten, .literal (.string "b")]).eval .empty).outcome .start =
        (.ok (.string "b"), State.start.write "a") ∧
      (partlyWritten.eval .empty).outcome .start =
        (.error (.unbound "missing"), State.start.write "a") ∧
      State.start.write "a" ≠ .start := by
  have stops : (partlyWritten.eval .empty).outcome .start =
      (.error (.unbound "missing"), State.start.write "a") := rfl
  obtain ⟨-, call, -, -, text, output, unchanged, -, -⟩ :=
    Expr.outcome_default_of_missing stops rfl [.literal (.string "b")]
  have written : text = "a" := by
    simpa [State.write, State.start] using output.symm
  refine ⟨?_, stops, ?_⟩
  · exact call.trans rfl
  · rw [ne_eq, unchanged, written]
    decide

end Stencil
