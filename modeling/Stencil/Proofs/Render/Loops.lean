import Stencil.Proofs.Render.Activities
import Stencil.Proofs.Render.Causes
import Stencil.Proofs.Render.Sequence

/-!
# Loops are left from where they stand

A statement that leaves or continues a loop ends all that it stands in, up to the innermost loop
around it. Every block and every conditional in between passes on how it has ended, whether by such
a statement or by a failure (`Leads.abrupt`), and the loop ends there or goes on with its next round
(`Starts.round_ends`). So a loop itself always ends normally, and so does a program.

Where there is no loop around it, such a statement is a failure. That it is one is decided by the
number of loops that the state counts, which is right (`Reached.sound`), and nothing else fails in
this way (`runBlock_blame`).
-/

namespace Stencil

variable {context : Context} {limit : Nat} {a b c : Activity} {p : Program}

/-! ### How activities end -/

theorem State.leave_leave (s : State) (m n : Nat) : (s.leave m).leave n = s.leave (m + n) := by
  simp [leave, Nat.add_comm m n, Function.iterate_add_apply]

theorem Run.outcome_body (scope : Bindings) (body : List Stmt) (s : State) :
    (Run.inScope scope (runBlock context limit body)).outcome s =
      ((runBlock context limit body).outcome (s.enter scope)).map fun (result, t) =>
        (result, t.leave 1) :=
  Run.outcome_inScope scope _ s

theorem Run.outcome_of_body {scope : Bindings} {body : List Stmt} {s t : State}
    {result : Except Stop Flow}
    (ended : (runBlock context limit body).outcome (s.enter scope) = some (result, t)) :
    (Run.inScope scope (runBlock context limit body)).outcome s = some (result, t.leave 1) := by
  rw [Run.outcome_body, ended]
  rfl

theorem Run.outcome_cond {cond : Expr} {s t : State} {v : Value}
    (checked : (cond.eval context).outcome s = (.ok v, t)) :
    (Run.ofEval (Value.truthy <$> cond.eval context)).outcome s = some (.ok v.truthy, t) := by
  rw [Run.outcome_ofEval, map_eq_pure_bind, Eval.outcome_bind, checked]
  rfl

/-- The statements that an activity adds to those around it, if it is not that of a loop, are no
loops. -/
theorem Starts.around (h : Starts context limit a b) (there : a.InPlace p)
    (body : b.code.isRounds = false) :
    ∃ front, b.around = front ++ a.around ∧ ∀ s ∈ front, s.isLoop = false := by
  cases h with
  | elseBody => exact ⟨[_], rfl, by simp [there.1]⟩
  | elifBody => exact ⟨[_], rfl, by simp [there.1]⟩
  | forLoop => cases body
  | forNext => cases body
  | whileLoop => cases body
  | whileNext => cases body
  | _ => exact ⟨[], rfl, by simp⟩

/-- The rounds of a loop are started by the loop or by the rounds before. -/
theorem Starts.loop (h : Starts context limit a b) (outside : a.code.isRounds = false)
    (rounds : b.code.isRounds = true) :
    ∃ loop, a.code = .stmt loop ∧ loop.isLoop = true ∧ b.around = loop :: a.around := by
  cases h with
  | forLoop => exact ⟨_, rfl, rfl, rfl⟩
  | whileLoop => exact ⟨_, rfl, rfl, rfl⟩
  | forNext => cases outside
  | whileNext => cases outside
  | _ => cases rounds

theorem Starts.suffix (h : Starts context limit a b) : a.around <:+ b.around := by
  cases h <;> first | exact List.suffix_refl _ | exact List.suffix_cons _ _

theorem Leads.suffix (h : Leads context limit a b) : a.around <:+ b.around := by
  induction h with
  | refl => exact List.suffix_refl _
  | tail _ step ih => exact ih.trans step.suffix

/-- Where a part of a block or of a conditional ends other than normally, so does the whole, out of
the scopes of the bodies that the part is in. -/
theorem Starts.abrupt (h : Starts context limit a b) (outside : a.code.isRounds = false)
    (body : b.code.isRounds = false) {result : Except Stop Flow} {t : State}
    (ended : b.outcome context limit = some (result, t)) (abrupt : result ≠ .ok .normal) :
    a.outcome context limit = some (result, t.leave (b.around.length - a.around.length)) := by
  cases h with
  | @first s ss around u =>
      rw [Nat.sub_self, State.leave_zero, Activity.outcome, Code.run, runBlock_cons,
        Run.followedBy, Run.outcome_bind]
      have first : (s.run context limit).outcome u = some (result, t) := ended
      rw [first]
      cases result with
      | error stop => rfl
      | ok flow =>
          cases flow with
          | normal => exact absurd rfl abrupt
          | leave => rfl
          | next => rfl
  | @next s ss around u t' ran =>
      rw [Nat.sub_self, State.leave_zero, Activity.outcome, Code.run, runBlock_cons,
        Run.followedBy, Run.outcome_bind, ran]
      exact ended
  | branch =>
      rw [Nat.sub_self, State.leave_zero, ← ended, Activity.outcome, Activity.outcome, Code.run,
        Code.run, Stmt.run, Else.run]
  | elseBody =>
      rw [List.length_cons, Nat.add_sub_cancel_left, Activity.outcome, Code.run, Else.run]
      exact Run.outcome_of_body ended
  | elifBody checked holds =>
      rw [List.length_cons, Nat.add_sub_cancel_left, Activity.outcome, Code.run, Else.run,
        Run.outcome_bind, Run.outcome_ofEval, checked]
      simp only [holds, if_true]
      exact Run.outcome_of_body ended
  | elifRest checked fails =>
      rw [Nat.sub_self, State.leave_zero, Activity.outcome, Code.run, Else.run,
        Run.outcome_bind, Run.outcome_ofEval, checked]
      simp only [fails]
      exact ended
  | forLoop => cases body
  | whileLoop => cases body
  | forRound => cases outside
  | forNext => cases outside
  | whileRound => cases outside
  | whileNext => cases outside

/-- What ends other than normally ends all that it stands in up to the innermost loop. -/
theorem Leads.abrupt (h : Leads context limit a c) (there : a.InPlace p)
    (outside : a.code.isRounds = false) {branches : List Stmt}
    (around : c.around = branches ++ a.around)
    (noLoop : ∀ s ∈ branches, s.isLoop = false) {result : Except Stop Flow} {t : State}
    (ended : c.outcome context limit = some (result, t)) (abrupt : result ≠ .ok .normal) :
    a.outcome context limit = some (result, t.leave branches.length) := by
  induction h using Relation.ReflTransGen.head_induction_on generalizing branches with
  | refl =>
      obtain rfl : branches = [] := List.self_eq_append_left.1 around
      exact ended
  | @head a b step more ih =>
      -- A loop that started here would be among the branches.
      have inside : b.code.isRounds = false := by
        cases rounds : b.code.isRounds with
        | false => rfl
        | true =>
            obtain ⟨loop, -, isLoop, eq⟩ := step.loop outside rounds
            obtain ⟨front, split⟩ := Leads.suffix more
            rw [eq, around, List.append_cons] at split
            have among : loop ∈ branches := by
              rw [← List.append_cancel_right split]
              simp
            exact isLoop.symm.trans (noLoop loop among)
      obtain ⟨front, eq, -⟩ := step.around there inside
      obtain ⟨further, split⟩ := Leads.suffix more
      obtain rfl : further ++ front = branches := by
        rw [eq, around, ← List.append_assoc] at split
        exact List.append_cancel_right split
      have later := ih (step.inPlace there) inside split.symm
        fun s among => noLoop s (List.mem_append_left _ among)
      have depth : b.around.length - a.around.length = front.length := by
        rw [eq, List.length_append, Nat.add_sub_cancel]
      rw [step.abrupt outside inside later abrupt, depth, State.leave_leave, List.length_append]

theorem Run.outcome_counted (rounds : Run Unit) (u : State) :
    (do
      Run.inLoop rounds
      return Flow.normal : Run Flow).outcome u =
      ((do
        rounds
        return Flow.normal : Run Flow).outcome u.inLoop).map fun (result, t) =>
          (result, t.outOfLoop) := by
  rw [Run.outcome_bind, Run.outcome_bind, Run.outcome_inLoop]
  rcases rounds.outcome u.inLoop with - | ⟨- | -, t⟩ <;> rfl

/-- A loop comes to what its rounds come to. -/
theorem Starts.outcome_loop (h : Starts context limit a b) (outside : a.code.isRounds = false)
    (rounds : b.code.isRounds = true) :
    a.outcome context limit =
      (b.outcome context limit).map fun (result, t) => (result, t.outOfLoop) := by
  cases h with
  | forLoop evaluated listed =>
      rw [Activity.outcome, Code.run, Stmt.run, Run.outcome_bind, Run.outcome_ofEval, evaluated]
      simp only [listed]
      exact Run.outcome_counted _ _
  | whileLoop =>
      rw [Activity.outcome, Code.run, Stmt.run]
      exact Run.outcome_counted _ _
  | forNext => cases outside
  | whileNext => cases outside
  | _ => cases rounds

/-- Rounds come to what the rounds after the first come to, unless the first leaves the loop. -/
theorem Starts.outcome_next (h : Starts context limit a b) (rounds : a.code.isRounds = true)
    (more : b.code.isRounds = true) : a.outcome context limit = b.outcome context limit := by
  cases h with
  | @forNext _ _ _ _ _ _ _ flow ran goesOn =>
      rw [Activity.outcome, Code.run, Run.forEach, Run.outcome_bind, Run.outcome_bind, ran]
      cases flow with
      | leave => exact absurd rfl goesOn
      | normal => exact (Run.outcome_bind _ _ _).symm
      | next => exact (Run.outcome_bind _ _ _).symm
  | @whileNext _ _ _ _ _ _ _ _ flow checked holds ran goesOn =>
      rw [Activity.outcome, Code.run, Run.whileTrue, Run.outcome_bind, Run.outcome_bind,
        Run.outcome_cond checked]
      simp only [holds, if_true]
      rw [Run.outcome_bind, ran]
      cases flow with
      | leave => exact absurd rfl goesOn
      | normal => exact (Run.outcome_bind _ _ _).symm
      | next => exact (Run.outcome_bind _ _ _).symm
  | forRound => cases more
  | whileRound => cases more
  | _ => cases rounds

/-- A loop ends when a round leaves it, and goes on with its other rounds otherwise. -/
theorem Starts.round_ends (h : Starts context limit a b) (rounds : a.code.isRounds = true)
    (body : b.code.isRounds = false) {flow : Flow} {t : State}
    (ended : b.outcome context limit = some (.ok flow, t)) :
    if flow = .leave then a.outcome context limit = some (.ok .normal, t.leave 1)
    else ∃ a', Starts context limit a a' ∧ a'.code.isRounds = true ∧ a'.state = t.leave 1 := by
  cases h with
  | @forRound var block around item items u =>
      have round : (Run.inScope (.ofList [(var, item)]) (runBlock context limit block)).outcome u =
          some (.ok flow, t.leave 1) :=
        Run.outcome_of_body ended
      split
      · next leaves =>
        subst leaves
        rw [Activity.outcome, Code.run, Run.forEach, Run.outcome_bind, Run.outcome_bind, round]
        rfl
      · next goesOn => exact ⟨_, .forNext round goesOn, rfl, rfl⟩
  | @whileRound cond block around more u t' v checked holds =>
      have round : (Run.inScope .empty (runBlock context limit block)).outcome t' =
          some (.ok flow, t.leave 1) :=
        Run.outcome_of_body ended
      split
      · next leaves =>
        subst leaves
        rw [Activity.outcome, Code.run, Run.whileTrue, Run.outcome_bind, Run.outcome_bind,
          Run.outcome_cond checked]
        simp only [holds, if_true]
        rw [Run.outcome_bind, round]
        rfl
      · next goesOn => exact ⟨_, .whileNext checked holds round goesOn, rfl, rfl⟩
  | forNext => cases body
  | whileNext => cases body
  | _ => cases rounds

theorem Run.normal_of_andThen {α : Type} {r : Run α} {s t : State} {flow : Flow}
    (ran : (do
      let _ ← r
      return Flow.normal : Run Flow).outcome s = some (.ok flow, t)) : flow = .normal := by
  rw [Run.outcome_bind] at ran
  split at ran <;> cases ran
  rfl

/-- A loop that comes to an end does so normally. -/
theorem Stmt.normal_of_loop (s : Stmt) (loop : s.isLoop = true) {u t : State} {flow : Flow}
    (ran : (s.run context limit).outcome u = some (.ok flow, t)) : flow = .normal := by
  cases s with
  | forLoop var iterable body =>
      rw [Stmt.run, Run.outcome_bind] at ran
      split at ran
      · rw [Run.outcome_bind] at ran
        split at ran
        · exact Run.normal_of_andThen ran
        · cases ran
        · cases ran
      · cases ran
      · cases ran
  | whileLoop cond body =>
      rw [Stmt.run] at ran
      exact Run.normal_of_andThen ran
  | _ => cases loop

/-! ### The innermost loop -/

/-- What the activity `l` runs is a loop, and `a` is what is left of the rounds of that loop: as `a`
ends, `l` does. -/
structure Activity.RoundsOf (context : Context) (limit : Nat) (l a : Activity) : Prop where
  rounds : a.code.isRounds = true
  leads : Leads context limit l a
  around : ∃ loop, l.code = .stmt loop ∧ loop.isLoop = true ∧ a.around = loop :: l.around
  outcome : l.outcome context limit =
    (a.outcome context limit).map fun (result, t) => (result, t.outOfLoop)

/-- What the rounds of a loop start stands in the same statements. -/
theorem Starts.same_around (h : Starts context limit a b) (rounds : a.code.isRounds = true) :
    b.around = a.around := by
  cases h <;> first | rfl | cases rounds

theorem Activity.RoundsOf.next {l : Activity} (of : l.RoundsOf context limit a)
    (step : Starts context limit a b) (rounds : b.code.isRounds = true) :
    l.RoundsOf context limit b where
  rounds := rounds
  leads := of.leads.tail step
  around := by
    rw [step.same_around of.rounds]
    exact of.around
  outcome := by
    rw [of.outcome, step.outcome_next of.rounds rounds]

theorem Starts.roundsOf (h : Starts context limit a b) (outside : a.code.isRounds = false)
    (rounds : b.code.isRounds = true) : a.RoundsOf context limit b where
  rounds := rounds
  leads := .single h
  around := h.loop outside rounds
  outcome := h.outcome_loop outside rounds

/-- Rounds are run because the loop is. -/
theorem Reached.of_rounds (h : Reached context limit p a) (rounds : a.code.isRounds = true) :
    ∃ l, Reached context limit p l ∧ l.RoundsOf context limit a := by
  induction h with
  | refl => cases rounds
  | @tail a b before step ih =>
      cases more : a.code.isRounds with
      | false => exact ⟨a, before, step.roundsOf more rounds⟩
      | true =>
          obtain ⟨l, reached, of⟩ := ih more
          exact ⟨l, reached, of.next step rounds⟩

/-- What is run in a loop is run in a round of the innermost loop around it. -/
theorem Reached.in_round (h : Reached context limit p c) (body : c.code.isRounds = false)
    {branches outer : List Stmt} {loop : Stmt} (around : c.around = branches ++ loop :: outer)
    (isLoop : loop.isLoop = true) (noLoop : ∀ s ∈ branches, s.isLoop = false) :
    ∃ a b, Reached context limit p a ∧ a.code.isRounds = true ∧ a.around = loop :: outer ∧
      Starts context limit a b ∧ b.code.isRounds = false ∧ Leads context limit b c := by
  induction h generalizing branches with
  | refl => cases branches <;> cases around
  | @tail c d before step ih =>
      have there := (Reached.sound before).1
      cases rounds : c.code.isRounds with
      | true =>
          obtain ⟨l, -, of⟩ := Reached.of_rounds before rounds
          obtain ⟨loop', -, isLoop', eq⟩ := of.around
          have same := step.same_around rounds
          -- The first statement around is a loop, so there are no branches.
          cases branches with
          | nil => exact ⟨c, d, before, rounds, same.symm.trans around, step, body, .refl⟩
          | cons s branches =>
              rw [same, eq] at around
              obtain ⟨rfl, -⟩ := List.cons.inj around
              cases isLoop'.symm.trans (noLoop _ List.mem_cons_self)
      | false =>
          obtain ⟨front, eq, noLoopFront⟩ := step.around there body
          have inner : ∃ rest, c.around = rest ++ loop :: outer ∧ rest ⊆ branches := by
            rw [eq] at around
            rcases List.append_eq_append_iff.1 around with
              ⟨rest, rfl, around'⟩ | ⟨rest, rfl, around'⟩
            · exact ⟨rest, around', List.subset_append_right _ _⟩
            · cases rest with
              | nil => exact ⟨[], around'.symm, List.nil_subset _⟩
              | cons s rest =>
                  obtain ⟨rfl, -⟩ := List.cons.inj around'
                  cases isLoop.symm.trans (noLoopFront _ (by simp))
          obtain ⟨rest, around', fewer⟩ := inner
          obtain ⟨a, b, reached, isRounds, place, start, block, leads⟩ :=
            ih rounds around' fun s among => noLoop s (fewer among)
          exact ⟨a, b, reached, isRounds, place, start, block, leads.tail step⟩

/-! ### Where there is no loop -/

/-- The keyword and the effect of a statement that leaves or continues a loop. -/
def Code.control? : Code → Option (String × Flow)
  | .stmt .breakLoop => some ("break", .leave)
  | .stmt .continueLoop => some ("continue", .next)
  | _ => none

theorem Activity.outcome_of_control {keyword : String} {flow : Flow}
    (h : a.code.control? = some (keyword, flow)) :
    a.outcome context limit =
      some (if a.state.loops = 0 then .error (.failed (.outsideLoop keyword)) else .ok flow,
        a.state) := by
  obtain ⟨code, around, s⟩ := a
  have controls : code.run context limit = Run.control keyword flow := by
    cases code with
    | stmt s =>
        cases s <;> cases h
        · rw [Code.run, Stmt.run]
        · rw [Code.run, Stmt.run]
    | _ => cases h
  rw [Activity.outcome, controls, Run.outcome_control]

/-- An activity that fails because a loop is to be left or continued where there is none. -/
def Activity.Fails (context : Context) (limit : Nat) (keyword : String) (a : Activity) : Prop :=
  ∃ t, a.outcome context limit = some (.error (.failed (.outsideLoop keyword)), t)

/-- A statement that leaves or continues a loop is run where no loop is counted. -/
def Activity.Stray (context : Context) (limit : Nat) (keyword : String) (a : Activity) : Prop :=
  ∃ c flow, Leads context limit a c ∧ c.code.control? = some (keyword, flow) ∧ c.state.loops = 0

/-- Wherever the code is run, if it fails in this way, the failure is that of a stray statement. -/
def Code.Blames (context : Context) (limit : Nat) (keyword : String) (code : Code) : Prop :=
  ∀ around u, Activity.Fails context limit keyword ⟨code, around, u⟩ →
    Activity.Stray context limit keyword ⟨code, around, u⟩

variable {keyword : String}

theorem Starts.stray (h : Starts context limit a b) (stray : b.Stray context limit keyword) :
    a.Stray context limit keyword := by
  obtain ⟨c, flow, leads, rest⟩ := stray
  exact ⟨c, flow, .head h leads, rest⟩

/-- An evaluation in front does not fail in this way. -/
theorem Run.fails_after_eval {α β : Type} {e : Eval α} (h : e.Loopless) {f : α → Run β}
    {u t : State}
    (failed : (Run.ofEval e >>= f).outcome u = some (.error (.failed (.outsideLoop keyword)), t)) :
    ∃ v u', e.outcome u = (.ok v, u') ∧
      (f v).outcome u' = some (.error (.failed (.outsideLoop keyword)), t) := by
  rw [outcome_bind, outcome_ofEval] at failed
  cases ran : e.outcome u with
  | mk result u' =>
      rw [ran] at failed
      cases result with
      | ok v => exact ⟨v, u', rfl, failed⟩
      | error stop =>
          cases failed
          cases h u _ t ran

theorem assigned_loopless (context : Context) (name : String) (op : AssignOp) (v : Value) :
    (Run.assigned context name op v).Loopless := by
  have combined (operator : BinaryOp) : Eval.Loopless (do
      let old ← Eval.lookup context name
      Eval.ofExcept (operator.apply old v)) :=
    (Eval.Loopless.lookup context name).bind fun old => .ofExcept (operator.apply_loopless old v)
  cases op with
  | set => exact .pure v
  | add => exact combined _
  | sub => exact combined _

theorem Eval.ok_of_outcome_truthy {e : Eval Value} {s t : State} {holds : Bool}
    (ran : (do return (← e).truthy : Eval Bool).outcome s = (.ok holds, t)) :
    ∃ v, e.outcome s = (.ok v, t) ∧ v.truthy = holds := by
  rw [outcome_bind] at ran
  split at ran
  · next v u first =>
    cases ran
    exact ⟨v, first, rfl⟩
  · cases ran

theorem Eval.ok_of_outcome_ofExcept {α : Type} {r : Except Failure α} {v : α} {s t : State}
    (ran : (Eval.ofExcept r).outcome s = (.ok v, t)) : r = .ok v ∧ t = s := by
  cases r <;> cases ran
  exact ⟨rfl, rfl⟩

/-- A loop fails if its rounds do. -/
theorem Run.fails_of_loop {r : Run Unit} {u t : State} {stop : Stop}
    (failed : (do
      Run.inLoop r
      return Flow.normal : Run Flow).outcome u = some (.error stop, t)) :
    ∃ t', r.outcome u.inLoop = some (.error stop, t') := by
  rw [Run.outcome_bind, Run.outcome_inLoop] at failed
  split at failed
  · cases failed
  · next ran =>
    cases failed
    obtain ⟨⟨result, t'⟩, rounds, eq⟩ := Option.map_eq_some_iff.1 ran
    cases eq
    exact ⟨t', rounds⟩
  · cases failed

section Blame

variable {body : List Stmt}

/-- Where a body fails, so does its block. -/
theorem Activity.fails_of_body {scope : Bindings} {around : List Stmt} {u t : State}
    (failed : (Run.inScope scope (runBlock context limit body)).outcome u =
      some (.error (.failed (.outsideLoop keyword)), t)) :
    Activity.Fails context limit keyword ⟨.block body, around, u.enter scope⟩ := by
  rw [Run.outcome_body, Option.map_eq_some_iff] at failed
  obtain ⟨⟨result, t'⟩, ran, eq⟩ := failed
  cases eq
  exact ⟨t', ran⟩

/-- Where a round of a loop, or else the rounds after it, fail of something that is in them, the
rounds from this one on do. -/
theorem blame_round {a : Activity} {around : List Stmt} {scope : Bindings} {u t : State}
    {more : Run Unit} {rest : State → Activity}
    (inside : Code.Blames context limit keyword (.block body))
    (after : ∀ t, (∃ t', more.outcome t = some (.error (.failed (.outsideLoop keyword)), t')) →
      Activity.Stray context limit keyword (rest t))
    (first : Starts context limit a ⟨.block body, around, u.enter scope⟩)
    (goesOn : ∀ flow t, (Run.inScope scope (runBlock context limit body)).outcome u =
      some (.ok flow, t) → flow ≠ .leave → Starts context limit a (rest t))
    (failed : (do
      match ← Run.inScope scope (runBlock context limit body) with
      | .leave => return ()
      | _ => more : Run Unit).outcome u = some (.error (.failed (.outsideLoop keyword)), t)) :
    a.Stray context limit keyword := by
  rw [Run.outcome_bind] at failed
  split at failed
  · next flow t' round =>
    cases flow with
    | leave => cases failed
    | normal => exact (goesOn _ t' round (by decide)).stray (after t' ⟨t, failed⟩)
    | next => exact (goesOn _ t' round (by decide)).stray (after t' ⟨t, failed⟩)
  · next round =>
    cases failed
    exact first.stray (inside _ _ (Activity.fails_of_body round))
  · cases failed

/-- What a loop fails of is in one of its rounds. -/
theorem forRounds_blame
    (inside : Code.Blames context limit keyword (.block body))
    {var : String} {items : List Value} (around : List Stmt) {u t : State}
    (failed : (Run.forEach (fun item => Run.inScope (.ofList [(var, item)])
      (runBlock context limit body)) items).outcome u =
        some (.error (.failed (.outsideLoop keyword)), t)) :
    Activity.Stray context limit keyword ⟨.forRounds var body items, around, u⟩ := by
  induction items generalizing u t with
  | nil => cases failed
  | cons item items ih =>
      rw [Run.forEach] at failed
      exact blame_round inside (fun t' ⟨_, later⟩ => ih later) .forRound
        (fun flow t' => .forNext) failed

theorem whileRounds_blame
    (inside : Code.Blames context limit keyword (.block body))
    {cond : Expr} {rounds : Nat} (around : List Stmt) {u t : State}
    (failed : (Run.whileTrue (Run.ofEval (Value.truthy <$> cond.eval context))
      (Run.inScope .empty (runBlock context limit body)) rounds).outcome u =
        some (.error (.failed (.outsideLoop keyword)), t)) :
    Activity.Stray context limit keyword ⟨.whileRounds cond body rounds, around, u⟩ := by
  induction rounds generalizing u t with
  | zero => cases failed
  | succ rounds ih =>
      rw [Run.whileTrue, map_eq_pure_bind] at failed
      obtain ⟨holds, u', evaluated, round⟩ := Run.fails_after_eval
        ((cond.eval_loopless context).bind fun v => .pure v.truthy) failed
      obtain ⟨v, checked, truth⟩ := Eval.ok_of_outcome_truthy evaluated
      cases holds with
      | false => cases round
      | true =>
          exact blame_round inside (fun t' ⟨_, later⟩ => ih later) (.whileRound checked truth)
            (fun flow t' => .whileNext checked truth) round

/-- What a conditional fails of is in the body that is run, or in the rest. -/
theorem elif_blame {s : Stmt} {cond : Expr} {rest : Else}
    (inside : Code.Blames context limit keyword (.block body))
    (other : Code.Blames context limit keyword (.otherwise s rest)) :
    Code.Blames context limit keyword (.otherwise s (.elif cond body rest)) := by
  intro around u ⟨t, failed⟩
  rw [Activity.outcome, Code.run, Else.run] at failed
  obtain ⟨v, u', checked, behind⟩ := Run.fails_after_eval (cond.eval_loopless context) failed
  cases holds : v.truthy with
  | true =>
      simp only [holds, if_true] at behind
      exact (Starts.elifBody checked holds).stray (inside _ _ (Activity.fails_of_body behind))
  | false =>
      simp only [holds] at behind
      exact (Starts.elifRest checked holds).stray (other _ u' ⟨t, behind⟩)

theorem Activity.blame_control {flow : Flow} {keyword' : String}
    (h : a.code.control? = some (keyword', flow)) (fails : a.Fails context limit keyword) :
    a.Stray context limit keyword := by
  obtain ⟨t, failed⟩ := fails
  rw [Activity.outcome_of_control h] at failed
  split at failed
  · next outside =>
    cases failed
    exact ⟨a, flow, .refl, h, outside⟩
  · cases failed

mutual

theorem Stmt.blame : ∀ s : Stmt, Code.Blames context limit keyword (.stmt s)
  | .emitText text, around, u, ⟨t, failed⟩ => by
    rw [Activity.outcome, Code.run, Stmt.run] at failed
    cases failed
  | .emit e, around, u, ⟨t, failed⟩ => by
    rw [Activity.outcome, Code.run, Stmt.run] at failed
    obtain ⟨v, u', -, later⟩ := Run.fails_after_eval
      ((e.eval_loopless context).bind fun v => .write v) failed
    cases later
  | .declare name value, around, u, ⟨t, failed⟩ => by
    rw [Activity.outcome, Code.run, Stmt.run] at failed
    obtain ⟨v, u', -, later⟩ := Run.fails_after_eval (value.eval_loopless context) failed
    cases later
  | .assign name op value, around, u, ⟨t, failed⟩ => by
    rw [Activity.outcome, Code.run, Stmt.run] at failed
    obtain ⟨v, u', -, later⟩ := Run.fails_after_eval
      ((value.eval_loopless context).bind fun v => assigned_loopless context name op v) failed
    cases later
  | .expr e, around, u, ⟨t, failed⟩ => by
    rw [Activity.outcome, Code.run, Stmt.run] at failed
    obtain ⟨v, u', -, later⟩ := Run.fails_after_eval (e.eval_loopless context) failed
    cases later
  | .branch cond body rest, around, u, ⟨t, failed⟩ => by
    rw [Activity.outcome, Code.run, Stmt.run] at failed
    refine Starts.branch.stray (elif_blame (runBlock_blame body) (rest.blame _) _ _ ⟨t, ?_⟩)
    rw [Activity.outcome, Code.run, Else.run]
    exact failed
  | .forLoop var iterable body, around, u, ⟨t, failed⟩ => by
    rw [Activity.outcome, Code.run, Stmt.run] at failed
    obtain ⟨v, u', evaluated, behind⟩ :=
      Run.fails_after_eval (iterable.eval_loopless context) failed
    obtain ⟨items, u'', taken, loop⟩ :=
      Run.fails_after_eval (.ofExcept v.items_loopless) behind
    obtain ⟨listed, rfl⟩ := Eval.ok_of_outcome_ofExcept taken
    obtain ⟨t', rounds⟩ := Run.fails_of_loop loop
    exact (Starts.forLoop evaluated listed).stray (forRounds_blame (runBlock_blame body) _ rounds)
  | .whileLoop cond body, around, u, ⟨t, failed⟩ => by
    rw [Activity.outcome, Code.run, Stmt.run] at failed
    obtain ⟨t', rounds⟩ := Run.fails_of_loop failed
    exact Starts.whileLoop.stray (whileRounds_blame (runBlock_blame body) _ rounds)
  | .breakLoop, _, _, fails => Activity.blame_control rfl fails
  | .continueLoop, _, _, fails => Activity.blame_control rfl fails

theorem Else.blame : ∀ (rest : Else) (s : Stmt),
    Code.Blames context limit keyword (.otherwise s rest)
  | .nothing, s, around, u, ⟨t, failed⟩ => by
    rw [Activity.outcome, Code.run, Else.run] at failed
    cases failed
  | .block body, s, around, u, ⟨t, failed⟩ => by
    rw [Activity.outcome, Code.run, Else.run] at failed
    exact Starts.elseBody.stray (runBlock_blame body _ _ (Activity.fails_of_body failed))
  | .elif _ body rest, s, _, _, fails =>
    elif_blame (runBlock_blame body) (rest.blame s) _ _ fails

/-- A run of some statements fails for want of a loop only because of a statement that needs one and
is run where none is counted. -/
theorem runBlock_blame : ∀ ss : List Stmt, Code.Blames context limit keyword (.block ss)
  | [], around, u, ⟨t, failed⟩ => by
    rw [Activity.outcome, Code.run, runBlock] at failed
    cases failed
  | s :: ss, around, u, ⟨t, failed⟩ => by
    rw [Activity.outcome, Code.run, runBlock_cons, Run.followedBy, Run.outcome_bind] at failed
    split at failed
    · next flow u' ran =>
      cases flow with
      | normal => exact (Starts.next ran).stray (runBlock_blame ss around u' ⟨t, failed⟩)
      | leave => cases failed
      | next => cases failed
    · next ran =>
      cases failed
      exact Starts.first.stray (s.blame around u ⟨t, ran⟩)
    · cases failed

end

end Blame

theorem Code.isRounds_of_control {code : Code} {control : String × Flow}
    (h : code.control? = some control) : code.isRounds = false := by
  cases code with
  | forRounds => cases h
  | whileRounds => cases h
  | _ => rfl

theorem Code.flow_of_control {code : Code} {keyword : String} {flow : Flow}
    (h : code.control? = some (keyword, flow)) : flow ≠ .normal := by
  rw [Code.control?.eq_def] at h
  split at h <;> cases h <;> decide

/-- A statement that leaves or continues a loop does that to the innermost loop around it. -/
theorem Reached.control_ends (h : Reached context limit p c) {flow : Flow}
    (controls : c.code.control? = some (keyword, flow)) {branches outer : List Stmt} {loop : Stmt}
    (around : c.around = branches ++ loop :: outer) (isLoop : loop.isLoop = true)
    (noLoop : ∀ s ∈ branches, s.isLoop = false) :
    ∃ l a b, Reached context limit p l ∧ l.code = .stmt loop ∧ l.around = outer ∧
      l.RoundsOf context limit a ∧ Starts context limit a b ∧ Leads context limit b c ∧
      if flow = .leave then
        l.outcome context limit =
          some (.ok .normal, (c.state.leave (branches.length + 1)).outOfLoop)
      else ∃ a', Starts context limit a a' ∧ l.RoundsOf context limit a' ∧
        a'.state = c.state.leave (branches.length + 1) := by
  obtain ⟨a, b, reached, rounds, place, start, body, leads⟩ :=
    h.in_round (Code.isRounds_of_control controls) around isLoop noLoop
  obtain ⟨l, reached', of⟩ := reached.of_rounds rounds
  obtain ⟨loop', code, -, place'⟩ := of.around
  obtain ⟨rfl, rfl⟩ := List.cons.inj (place'.symm.trans place)
  have inLoop : c.state.loops ≠ 0 := by
    have counts : c.state.loops = c.around.countP Stmt.isLoop := h.sound.2
    rw [counts, around, List.countP_append, List.countP_cons_of_pos isLoop]
    omega
  have ended : c.outcome context limit = some (.ok flow, c.state) := by
    rw [Activity.outcome_of_control controls, if_neg inLoop]
  have inRound : Reached context limit p b := reached.tail start
  have passed : b.outcome context limit = some (.ok flow, c.state.leave branches.length) := by
    refine leads.abrupt inRound.sound.1 body ?_ noLoop ended ?_
    · rw [around, start.same_around rounds, place]
    · intro eq
      cases eq
      exact Code.flow_of_control controls rfl
  have ends := start.round_ends rounds body passed
  rw [State.leave_leave] at ends
  refine ⟨l, a, b, reached', code, rfl, of, start, leads, ?_⟩
  split
  · next leaves =>
    rw [if_pos leaves] at ends
    rw [of.outcome, ends]
    rfl
  · next goesOn =>
    rw [if_neg goesOn] at ends
    obtain ⟨a', step, more, state⟩ := ends
    exact ⟨a', step, of.next step more, state⟩

theorem Program.run_eq_error {stop : Stop} :
    p.run context limit = some (.error stop) ↔
      ∃ t, (runBlock context limit p).outcome .start = some (.error stop, t) := by
  rw [Program.run, Program.runFrom_eq]
  cases (runBlock context limit p).outcome .start with
  | none => simp
  | some ended =>
      obtain ⟨result, t⟩ := ended
      cases result <;> simp [Except.map]

/-- A run fails for want of a loop exactly if it comes to a statement that needs one and has none
around it. -/
theorem Program.run_outsideLoop :
    p.run context limit = some (.error (.failed (.outsideLoop keyword))) ↔
      ∃ c flow, Reached context limit p c ∧ c.code.control? = some (keyword, flow) ∧
        ∀ s ∈ c.around, s.isLoop = false := by
  rw [Program.run_eq_error]
  constructor
  · intro fails
    obtain ⟨c, flow, leads, controls, outside⟩ := runBlock_blame p [] .start fails
    have reached : Reached context limit p c := leads
    have counts : c.state.loops = c.around.countP Stmt.isLoop := reached.sound.2
    refine ⟨c, flow, reached, controls, ?_⟩
    simpa using List.countP_eq_zero.1 (counts.symm.trans outside)
  · rintro ⟨c, flow, reached, controls, noLoop⟩
    have outside : c.state.loops = 0 := by
      have counts : c.state.loops = c.around.countP Stmt.isLoop := reached.sound.2
      rw [counts, List.countP_eq_zero]
      simpa using noLoop
    have ended : c.outcome context limit =
        some (.error (.failed (.outsideLoop keyword)), c.state) := by
      rw [Activity.outcome_of_control controls, if_pos outside]
    have first : Activity.InPlace p ⟨.block p, [], .start⟩ := .top
    exact ⟨_, Leads.abrupt reached first rfl (List.append_nil _).symm noLoop ended (by simp)⟩

/-- The number of loops that is counted at any time of a run is that of the loops around the code
that is being run. A statement that leaves or continues a loop does that to the innermost loop
around it, whatever conditionals are between; loops, and the program, end normally if they come to
an end. A run fails for want of a loop exactly if such a statement is run that has no loop around
it. -/
theorem Program.loops_lexical (p : Program) (context : Context) (limit : Nat) :
    (∀ a, Reached context limit p a →
      a.InPlace p ∧ a.state.loops = a.around.countP Stmt.isLoop ∧
        ∀ result t, a.outcome context limit = some (result, t) → t.loops = a.state.loops) ∧
    (∀ c keyword flow branches loop outer, Reached context limit p c →
      c.code.control? = some (keyword, flow) → c.around = branches ++ loop :: outer →
      loop.isLoop = true → (∀ s ∈ branches, s.isLoop = false) →
      ∃ l a b, Reached context limit p l ∧ l.code = .stmt loop ∧ l.around = outer ∧
        l.RoundsOf context limit a ∧ Starts context limit a b ∧ Leads context limit b c ∧
        if flow = .leave then
          l.outcome context limit =
            some (.ok .normal, (c.state.leave (branches.length + 1)).outOfLoop)
        else ∃ a', Starts context limit a a' ∧ l.RoundsOf context limit a' ∧
          a'.state = c.state.leave (branches.length + 1)) ∧
    (∀ (s : Stmt) (u t : State) (flow : Flow), s.isLoop = true →
      (s.run context limit).outcome u = some (.ok flow, t) → flow = .normal) ∧
    (∀ flow t, (runBlock context limit p).outcome .start = some (.ok flow, t) → flow = .normal) ∧
    ∀ keyword, p.run context limit = some (.error (.failed (.outsideLoop keyword))) ↔
      ∃ c flow, Reached context limit p c ∧ c.code.control? = some (keyword, flow) ∧
        ∀ s ∈ c.around, s.isLoop = false := by
  refine ⟨?_, ?_, fun s u t flow loop ran => s.normal_of_loop loop ran, ?_, ?_⟩
  · intro a reached
    exact ⟨reached.sound.1, reached.sound.2, fun _ _ => Activity.loops_of_outcome⟩
  · intro c keyword flow branches loop outer reached controls around isLoop noLoop
    exact reached.control_ends controls around isLoop noLoop
  · intro flow t ran
    exact runBlock_calm p .start flow t rfl ran
  · exact fun keyword => Program.run_outsideLoop

namespace Leaving

def conditional : Stmt := .branch (.literal (.bool true)) [.breakLoop] .nothing

def loop : Stmt := .forLoop "x" (.list [.literal (.int 1), .literal (.int 2)]) [conditional]

/-- The loop, and behind it a statement that has no loop to leave. -/
def program : Program := [loop, .breakLoop]

/-- The first round of the loop, in the conditional. -/
def inside : State :=
  ((State.start.inLoop).enter (.ofList [("x", .int 1)])).enter .empty

theorem reached_inside :
    Reached .empty 1 program ⟨.stmt .breakLoop, [conditional, loop], inside⟩ := by
  have rounds : Reached .empty 1 program
      ⟨.forRounds "x" [conditional] [.int 1, .int 2], [loop], State.start.inLoop⟩ :=
    (Relation.ReflTransGen.single .first).tail (.forLoop rfl rfl)
  have checked : ((Expr.literal (.bool true)).eval .empty).outcome
      (State.start.inLoop.enter (.ofList [("x", .int 1)])) = (.ok (.bool true), _) := rfl
  exact ((((rounds.tail .forRound).tail .first).tail .branch).tail (.elifBody checked rfl)).tail
    .first

theorem reached_behind : Reached .empty 1 program ⟨.stmt .breakLoop, [], .start⟩ :=
  (Relation.ReflTransGen.single (.next rfl)).tail .first

/-- The loop ends in its first round, with both its scope and that of the conditional left, and the
run fails behind it. -/
theorem loops_lexical_leaving :
    inside.loops = [conditional, loop].countP Stmt.isLoop ∧
      (∃ l : Activity, l.code = .stmt loop ∧
        l.outcome .empty 1 = some (.ok .normal, (inside.leave 2).outOfLoop)) ∧
      Program.run .empty 1 program = some (.error (.failed (.outsideLoop "break"))) := by
  obtain ⟨counts, ends, -, -, fails⟩ := Program.loops_lexical program .empty 1
  obtain ⟨l, a, b, -, code, -, -, -, -, ended⟩ := ends _ "break" .leave [conditional] loop []
    reached_inside rfl rfl rfl (by simp [conditional, Stmt.isLoop])
  refine ⟨(counts _ reached_inside).2.1, ⟨l, code, ended⟩, ?_⟩
  exact (fails "break").2 ⟨_, .leave, reached_behind, rfl, by simp⟩

end Leaving

end Stencil
