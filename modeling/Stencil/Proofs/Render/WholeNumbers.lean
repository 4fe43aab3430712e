import Stencil.Proofs.Render.Evaluation

/-!
# Whole numbers are exact

An expression made of whole numbers, minus signs and the five operators of arithmetic is a list of
computations, from left to right and operands first, on numbers without any bound. Its evaluation
does them on 64-bit words. The two agree as long as nothing is divided by zero and every result
fits into a word, where of a remainder it is the quotient that has to fit; the first computation
that goes wrong is the one that the evaluation fails with.
-/

namespace Stencil

/-- Something to be computed from whole numbers. -/
inductive Computation where
  | negation (a : Int)
  | arithmetic (op : Arithmetic) (a b : Int)

namespace Computation

/-- The exact result. Division truncates. -/
def exact : Computation → Int
  | negation a => -a
  | arithmetic .add a b => a + b
  | arithmetic .sub a b => a - b
  | arithmetic .mul a b => a * b
  | arithmetic .div a b => a.tdiv b
  | arithmetic .rem a b => a.tmod b

/-- The number that has to fit: the exact result, but the quotient of a remainder. -/
def bounded : Computation → Int
  | arithmetic .rem a b => a.tdiv b
  | c => c.exact

def divisor? : Computation → Option Int
  | arithmetic .div _ b => some b
  | arithmetic .rem _ b => some b
  | _ => none

def symbol : Computation → String
  | negation _ => UnaryOp.neg.symbol
  | arithmetic op _ _ => op.symbol

/-- Nothing is divided by zero, and what has to fit into 64 bits does. -/
def Sound (c : Computation) : Prop :=
  c.divisor? ≠ some 0 ∧ -2 ^ 63 ≤ c.bounded ∧ c.bounded < 2 ^ 63

instance (c : Computation) : Decidable c.Sound := inferInstanceAs (Decidable (_ ∧ _ ∧ _))

/-- What goes wrong if a computation is not sound. -/
def failure (c : Computation) : Failure :=
  if c.divisor? = some 0 then .divisionByZero else .overflow c.symbol

/-- What the operators on values make of it. -/
def result : Computation → Except Failure Value
  | negation a => Value.checked UnaryOp.neg.symbol (-a)
  | arithmetic op a b => Value.intArithmetic op a b

end Computation

namespace Value

variable {op : String} {n : Int}

theorem checked_of_fits (least : -2 ^ 63 ≤ n) (most : n < 2 ^ 63) :
    checked op n = .ok (int (Int64.ofInt n)) := by
  have low : Int64.minValue.toInt = -2 ^ 63 := rfl
  have high : Int64.maxValue.toInt = 2 ^ 63 - 1 := rfl
  rw [checked, ofInt?, if_pos (by omega)]

theorem checked_of_not_fits (h : ¬(-2 ^ 63 ≤ n ∧ n < 2 ^ 63)) :
    checked op n = .error (.overflow op) := by
  have low : Int64.minValue.toInt = -2 ^ 63 := rfl
  have high : Int64.maxValue.toInt = 2 ^ 63 - 1 := rfl
  rw [checked, ofInt?, if_neg (by omega)]

/-- A remainder is smaller than its divisor, so it fits. -/
theorem tmod_fits (i : Int) (j : Int64) (nonzero : j.toInt ≠ 0) :
    -2 ^ 63 ≤ i.tmod j.toInt ∧ i.tmod j.toInt < 2 ^ 63 := by
  have size : (i.tmod j.toInt).natAbs < j.toInt.natAbs := by
    rw [Int.natAbs_tmod]
    exact Nat.mod_lt _ (by omega)
  have least := j.le_toInt
  have most := j.toInt_lt
  omega

end Value

namespace Computation

/-- The computations on 64-bit words. -/
inductive OnWords : Computation → Prop
  | negation (i : Int64) : OnWords (negation i.toInt)
  | arithmetic (op : Arithmetic) (i j : Int64) : OnWords (arithmetic op i.toInt j.toInt)

variable {c : Computation}

/-- A sound computation on words yields its exact result as a word. -/
theorem OnWords.result_of_sound (words : c.OnWords) (sound : c.Sound) :
    ∃ i : Int64, c.result = .ok (.int i) ∧ i.toInt = c.exact := by
  obtain ⟨nonzero, least, most⟩ := sound
  have word {n : Int} {op : String} (least : -2 ^ 63 ≤ n) (most : n < 2 ^ 63) :
      ∃ i : Int64, Value.checked op n = .ok (.int i) ∧ i.toInt = n :=
    ⟨Int64.ofInt n, Value.checked_of_fits least most, Int64.toInt_ofInt_of_le least most⟩
  cases words with
  | negation i => exact word least most
  | arithmetic op i j =>
      cases op with
      | add | sub | mul => exact word least most
      | div =>
          have divides : j.toInt ≠ 0 := fun zero => nonzero (by rw [divisor?, zero])
          rw [result, Value.intArithmetic, if_neg divides]
          exact word least most
      | rem =>
          have divides : j.toInt ≠ 0 := fun zero => nonzero (by rw [divisor?, zero])
          have fits := Value.tmod_fits i.toInt j divides
          have quotient : Value.checked Arithmetic.rem.symbol (i.toInt.tdiv j.toInt) = _ :=
            Value.checked_of_fits least most
          rw [result, Value.intArithmetic, if_neg divides, quotient]
          exact word fits.1 fits.2

/-- Any other one fails. -/
theorem result_of_not_sound (unsound : ¬c.Sound) : c.result = .error c.failure := by
  rw [Sound, not_and] at unsound
  cases c with
  | negation a => exact Value.checked_of_not_fits (unsound (by simp [divisor?]))
  | arithmetic op a b =>
      cases op with
      | add | sub | mul => exact Value.checked_of_not_fits (unsound (by simp [divisor?]))
      | div =>
          by_cases zero : b = 0
          · simp [result, Value.intArithmetic, failure, divisor?, zero]
          · have tooLarge := unsound (by simpa [divisor?] using zero)
            simp only [result, Value.intArithmetic, failure, divisor?, zero, Option.some.injEq,
              if_false]
            exact Value.checked_of_not_fits tooLarge
      | rem =>
          by_cases zero : b = 0
          · simp [result, Value.intArithmetic, failure, divisor?, zero]
          · have tooLarge := unsound (by simpa [divisor?] using zero)
            have quotient : Value.checked Arithmetic.rem.symbol (a.tdiv b) = _ :=
              Value.checked_of_not_fits tooLarge
            simp only [result, Value.intArithmetic, failure, divisor?, zero, Option.some.injEq,
              if_false, quotient]
            rfl

end Computation

namespace Expr

/-- An expression made of whole numbers, written down or named, minus signs and arithmetic. -/
inductive IsWhole (meaning : String → Option Value) : Expr → Prop
  | literal (i : Int64) : IsWhole meaning (.literal (.int i))
  | var {name : String} {i : Int64} (h : meaning name = some (.int i)) :
    IsWhole meaning (.var name)
  | neg {e : Expr} (h : IsWhole meaning e) : IsWhole meaning (.unary .neg e)
  | arith (op : Arithmetic) {l r : Expr} (left : IsWhole meaning l) (right : IsWhole meaning r) :
    IsWhole meaning (.binary (.arith op) l r)

def number (meaning : String → Option Value) (name : String) : Int :=
  match meaning name with
  | some (.int i) => i.toInt
  | _ => 0

/-- The exact number that an expression of whole numbers stands for. -/
def exact (meaning : String → Option Value) : Expr → Int
  | .literal (.int i) => i.toInt
  | .var name => number meaning name
  | .unary .neg e => (Computation.negation (e.exact meaning)).exact
  | .binary (.arith op) l r =>
    (Computation.arithmetic op (l.exact meaning) (r.exact meaning)).exact
  | _ => 0

/-- What is computed for an expression of whole numbers, in the order of its evaluation. -/
def computations (meaning : String → Option Value) : Expr → List Computation
  | .unary .neg e => e.computations meaning ++ [.negation (e.exact meaning)]
  | .binary (.arith op) l r =>
    l.computations meaning ++ r.computations meaning ++
      [.arithmetic op (l.exact meaning) (r.exact meaning)]
  | _ => []

/-- The first computation that is not sound, if there is one. -/
def fault? (meaning : String → Option Value) (e : Expr) : Option Computation :=
  (e.computations meaning).find? fun c => !decide c.Sound

/-- What comes of exact computations: the number itself, or the failure of one of them. -/
inductive Settled (n : Int) : Option Computation → Except Stop Value → Prop
  | exact {i : Int64} (h : i.toInt = n) : Settled n none (.ok (.int i))
  | fault (c : Computation) : Settled n (some c) (.error (.failed c.failure))

section Evaluation

variable {context : Context} {s : State}

/-- A computation that is left to be done on the values of its operands. -/
theorem settled_last {c : Computation} (words : c.OnWords) :
    ∃ result, (Eval.ofExcept c.result).outcome s = (result, s) ∧
      Settled c.exact ([c].find? fun c => !decide c.Sound) result := by
  by_cases sound : c.Sound
  · obtain ⟨i, ran, same⟩ := words.result_of_sound sound
    refine ⟨.ok (.int i), by rw [ran]; rfl, ?_⟩
    simpa [sound] using Settled.exact same
  · refine ⟨.error (.failed c.failure), by rw [Computation.result_of_not_sound sound]; rfl, ?_⟩
    simpa [sound] using Settled.fault (n := c.exact) c

/-- An evaluation of whole numbers leaves the state as it is, and comes to the exact number, or to
the failure of the first computation that is not sound. -/
theorem eval_settled {e : Expr} (whole : e.IsWhole (s.value? context)) :
    ∃ result, (e.eval context).outcome s = (result, s) ∧
      Settled (e.exact (s.value? context)) (e.fault? (s.value? context)) result := by
  induction whole with
  | literal i => exact ⟨.ok (.int i), by rw [eval]; rfl, .exact rfl⟩
  | @var name i h =>
      refine ⟨.ok (.int i), ?_, .exact ?_⟩
      · rw [State.value?] at h
        rw [eval, Eval.outcome_lookup, h]
      · rw [exact, number, h]
  | @neg e _ ih =>
      obtain ⟨result, ran, settled⟩ := ih
      rw [eval, Eval.outcome_bind, ran, fault?, computations, List.find?_append, ← fault?]
      generalize e.fault? (s.value? context) = fault at settled
      cases settled with
      | exact h =>
          rw [exact, ← h, Option.none_or]
          exact settled_last (.negation _)
      | fault c => exact ⟨_, rfl, .fault c⟩
  | @arith op l r _ _ ihl ihr =>
      obtain ⟨left, ranLeft, settledLeft⟩ := ihl
      obtain ⟨right, ranRight, settledRight⟩ := ihr
      rw [eval, Eval.outcome_bind, ranLeft, fault?, computations, List.find?_append,
        List.find?_append, ← fault?, ← fault?]
      generalize l.fault? (s.value? context) = fault at settledLeft
      cases settledLeft with
      | fault c => exact ⟨_, rfl, .fault c⟩
      | exact hl =>
          simp only [Eval.outcome_bind, ranRight, Option.none_or]
          generalize r.fault? (s.value? context) = fault at settledRight
          cases settledRight with
          | fault c => exact ⟨_, rfl, .fault c⟩
          | exact hr =>
              rw [exact, ← hl, ← hr, Option.none_or]
              exact settled_last (.arithmetic op _ _)

end Evaluation

/-- An expression of whole numbers has a value if and only if every computation for it, taken
exactly and in the order of the evaluation, is sound. The value is the exact number then. Otherwise
the first computation that is not sound decides the failure. -/
theorem eval_whole {context : Context} {s : State} {e : Expr}
    (whole : e.IsWhole (s.value? context)) :
    ((∃ i t, (e.eval context).outcome s = (.ok (.int i), t)) ↔
        ∀ c ∈ e.computations (s.value? context), c.Sound) ∧
      (∀ v t, (e.eval context).outcome s = (.ok v, t) →
        t = s ∧ ∃ i : Int64, v = .int i ∧ i.toInt = e.exact (s.value? context)) ∧
      ∀ c, (e.computations (s.value? context)).find? (fun c => !decide c.Sound) = some c →
        (e.eval context).outcome s = (.error (.failed c.failure), s) := by
  obtain ⟨result, ran, settled⟩ := eval_settled whole
  have sound : e.fault? (s.value? context) = none ↔
      ∀ c ∈ e.computations (s.value? context), c.Sound := by
    simp [fault?]
  rw [ran, ← sound]
  change _ ∧ _ ∧ ∀ c, e.fault? (s.value? context) = some c → _
  generalize e.fault? (s.value? context) = fault at settled
  cases settled with
  | @exact i h =>
      refine ⟨iff_of_true ⟨i, s, rfl⟩ rfl, ?_, by simp⟩
      rintro v t ⟨⟩
      exact ⟨rfl, i, rfl, h⟩
  | fault c =>
      refine ⟨iff_of_false (by simp) (by simp), by simp, ?_⟩
      rintro c' ⟨⟩
      rfl

/-- The lowest number that fits, which is not the negation of one that does. -/
def lowest : Expr :=
  .binary (.arith .sub) (.unary .neg (.literal (.int 9223372036854775807))) (.literal (.int 1))

theorem eval_whole_lowest :
    (∃ i : Int64, (lowest.eval (.ofList [("d", .int (-1))])).outcome .start =
        (.ok (.int i), .start) ∧ i.toInt = -2 ^ 63) ∧
      ((Expr.binary (.arith .rem) lowest (.var "d")).eval (.ofList [("d", .int (-1))])).outcome
        .start = (.error (.failed (.overflow "%")), .start) := by
  have whole : lowest.IsWhole (State.start.value? (.ofList [("d", .int (-1))])) :=
    .arith .sub (.neg (.literal _)) (.literal _)
  constructor
  · obtain ⟨number, exact, -⟩ := eval_whole whole
    obtain ⟨i, t, ran⟩ := number.2 (by decide)
    obtain ⟨rfl, j, same, value⟩ := exact _ _ ran
    cases same
    exact ⟨i, ran, value.trans (by decide)⟩
  · have named : (Expr.var "d").IsWhole (State.start.value? (.ofList [("d", .int (-1))])) :=
      .var rfl
    exact (eval_whole (whole.arith .rem named)).2.2 (.arithmetic .rem (-2 ^ 63) (-1)) rfl

end Expr

end Stencil
