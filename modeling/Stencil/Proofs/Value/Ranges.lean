import Mathlib
import Stencil.Builtin
import Stencil.Proofs.Attempts

/-!
# Ranges

A range consists of the numbers from its start on that come before its end. Their number is computed
from the bounds, and they are listed by going on step by step, on 64-bit words. The two agree: the
next number does not fit in a word only where it would come behind the end, which is a word.
-/

namespace Stencil.Builtin

variable {start stop step current : Int} {args : List Value}

/-- Whether a number comes before the end of a range. -/
def Before (step stop i : Int) : Prop := 0 < step ∧ i < stop ∨ step < 0 ∧ stop < i

def numbers (start stop step : Int) : Set Int :=
  {i | Before step stop i ∧ ∃ k : Nat, i = start + k * step}

/-- The first `n` of the numbers `start`, `start + step`, …. -/
def steps (start step : Int) (n : Nat) : List Value :=
  (List.range n).map fun (k : Nat) => .int (Int64.ofInt (start + k * step))

theorem steps_succ (start step : Int) (n : Nat) :
    steps start step (n + 1) = .int (Int64.ofInt start) :: steps (start + step) step n := by
  rw [steps, List.range_succ_eq_map, List.map_cons, List.map_map, steps]
  congr 1
  · simp
  · refine List.map_congr_left fun k _ => ?_
    simp only [Function.comp_apply, Nat.succ_eq_add_one, Nat.cast_add, Nat.cast_one]
    congr 2
    ring

/-! ### How many numbers there are -/

theorem lt_ceiling {distance step : Nat} (positive : 0 < step) (k : Nat) :
    k < (distance + step - 1) / step ↔ k * step < distance := by
  rw [Nat.lt_iff_add_one_le, Nat.le_div_iff_mul_le positive, Nat.add_mul]
  omega

/-- A range goes on as long as its numbers come before its end. -/
theorem lt_rangeLength (k : Nat) :
    k < rangeLength start stop step ↔ Before step stop (start + k * step) := by
  rw [rangeLength, Before]
  split
  · next begins =>
    have moves : 0 < step.natAbs := by omega
    rw [lt_ceiling moves, ← Int.ofNat_lt, Nat.cast_mul]
    rcases begins with ⟨up, begins⟩ | ⟨down, begins⟩
    · rw [Int.natAbs_of_nonneg up.le, Int.natAbs_of_nonneg (by omega)]
      omega
    · rw [Int.ofNat_natAbs_of_nonpos down.le, Int.ofNat_natAbs_of_nonpos (by omega), Int.mul_neg]
      omega
  · next neither =>
    rcases lt_trichotomy step 0 with down | rfl | up
    · have passed : (k : Int) * step ≤ 0 :=
        Int.mul_nonpos_of_nonneg_of_nonpos (Int.natCast_nonneg k) down.le
      omega
    · simp
    · have passed : 0 ≤ (k : Int) * step := Int.mul_nonneg (Int.natCast_nonneg k) up.le
      omega

theorem rangeLength_pos : 0 < rangeLength current stop step ↔ Before step stop current := by
  have first : 0 < rangeLength current stop step ↔ Before step stop (current + (0 : Nat) * step) :=
    lt_rangeLength 0
  simpa using first

/-- A range that has begun has one number more than what is left of it after that. -/
theorem rangeLength_succ (before : Before step stop current) :
    rangeLength current stop step = rangeLength (current + step) stop step + 1 := by
  have shifted (k : Nat) :
      k + 1 < rangeLength current stop step ↔ k < rangeLength (current + step) stop step := by
    have same : current + (k + 1 : Nat) * step = current + step + k * step := by
      push_cast
      ring
    rw [lt_rangeLength, lt_rangeLength, same]
  have begun := rangeLength_pos.2 before
  have last := shifted (rangeLength (current + step) stop step - 1)
  have behind := shifted (rangeLength (current + step) stop step)
  omega

theorem numbers_eq_image :
    numbers start stop step =
      (fun k : Nat => start + k * step) '' Finset.range (rangeLength start stop step) := by
  ext i
  constructor
  · rintro ⟨before, k, rfl⟩
    exact ⟨k, by simpa using (lt_rangeLength k).2 before, rfl⟩
  · rintro ⟨k, inside, rfl⟩
    exact ⟨(lt_rangeLength k).1 (by simpa using inside), k, rfl⟩

/-- The length that is computed beforehand is the number of numbers. -/
theorem ncard_numbers (moves : step ≠ 0) :
    (numbers start stop step).ncard = rangeLength start stop step := by
  have injective : Function.Injective fun k : Nat => start + k * step := by
    intro k l same
    have product : (k : Int) * step = l * step := by simpa using same
    exact Int.ofNat_inj.1 (Int.eq_of_mul_eq_mul_right moves product)
  rw [numbers_eq_image, Set.ncard_image_of_injective _ injective, Set.ncard_coe_finset,
    Finset.card_range]

/-! ### Which numbers are listed -/

/-- Going on step by step lists all the numbers of a range between words. -/
theorem toList_rangeFrom (i : Int64) (items : Array Value) (least : -2 ^ 63 ≤ current)
    (most : current < 2 ^ 63) :
    (rangeFrom i.toInt step current items).toList =
      items.toList ++ steps current step (rangeLength current i.toInt step) := by
  have low : Int64.minValue.toInt = -2 ^ 63 := rfl
  have high : Int64.maxValue.toInt = 2 ^ 63 - 1 := rfl
  induction current, items using rangeFrom.induct i.toInt step with
  | case1 current items before items' next fits ih =>
      rw [rangeFrom, if_pos before, if_pos fits, ih (by omega) (by omega),
        rangeLength_succ before, steps_succ, Array.toList_push, List.append_assoc]
      rfl
  | case2 current items before next large =>
      have ends : ¬Before step i.toInt (current + step) := by
        have bounds := And.intro i.le_toInt i.toInt_lt
        rw [Before]
        omega
      have last : rangeLength (current + step) i.toInt step = 0 :=
        Nat.eq_zero_of_not_pos (mt rangeLength_pos.1 ends)
      rw [rangeFrom, if_pos before, if_neg large, rangeLength_succ before, last, steps_succ,
        Array.toList_push]
      rfl
  | case3 current items passed =>
      have none : rangeLength current i.toInt step = 0 := by
        rw [rangeLength, if_neg passed]
      rw [rangeFrom, if_neg passed, none]
      simp [steps]

theorem wholeNumber_eq_ok {b : Builtin} {v : Value} {n : Int} :
    b.wholeNumber v = .ok n ↔ ∃ i : Int64, v = .int i ∧ i.toInt = n := by
  rw [wholeNumber.eq_def]
  split
  · simp
  · next other =>
    simp only [reduceCtorEq, false_iff, not_exists]
    rintro i ⟨rfl, -⟩
    exact other i rfl

/-- The bounds of a range are words. -/
theorem words_of_rangeArguments (read : rangeArguments args = .ok (start, stop, step)) :
    (∃ i : Int64, i.toInt = start) ∧ ∃ i : Int64, i.toInt = stop := by
  rw [rangeArguments.eq_def] at read
  split at read
  · obtain ⟨stop, word, read⟩ := bind_eq_ok.1 read
    obtain ⟨i, -, rfl⟩ := wholeNumber_eq_ok.1 word
    cases read
    exact ⟨⟨0, rfl⟩, i, rfl⟩
  · obtain ⟨start, word, read⟩ := bind_eq_ok.1 read
    obtain ⟨i, -, rfl⟩ := wholeNumber_eq_ok.1 word
    obtain ⟨stop, word, read⟩ := bind_eq_ok.1 read
    obtain ⟨j, -, rfl⟩ := wholeNumber_eq_ok.1 word
    cases read
    exact ⟨⟨i, rfl⟩, j, rfl⟩
  · obtain ⟨start, word, read⟩ := bind_eq_ok.1 read
    obtain ⟨i, -, rfl⟩ := wholeNumber_eq_ok.1 word
    obtain ⟨stop, word, read⟩ := bind_eq_ok.1 read
    obtain ⟨j, -, rfl⟩ := wholeNumber_eq_ok.1 word
    obtain ⟨step, -, read⟩ := bind_eq_ok.1 read
    cases read
    exact ⟨⟨i, rfl⟩, j, rfl⟩
  · cases read

theorem callRange_eq (read : rangeArguments args = .ok (start, stop, step)) (moves : step ≠ 0) :
    callRange args =
      if sizeLimit < rangeLength start stop step then .error (.overflow range.name)
      else .ok (.list (steps start step (rangeLength start stop step))) := by
  obtain ⟨⟨i, rfl⟩, j, rfl⟩ := words_of_rangeArguments read
  have listed : (rangeFrom j.toInt step i.toInt #[]).toList =
      steps i.toInt step (rangeLength i.toInt j.toInt step) :=
    toList_rangeFrom j #[] i.le_toInt i.toInt_lt
  rw [callRange, read]
  simp only [bind, Except.bind, if_neg moves, pure, Except.pure, Array.emptyWithCapacity_eq, listed]
  split <;> rfl

/-- A range is refused exactly if it would go on behind as many numbers as it may have. -/
theorem callRange_eq_overflow (read : rangeArguments args = .ok (start, stop, step))
    (moves : step ≠ 0) :
    callRange args = .error (.overflow range.name) ↔
      Before step stop (start + sizeLimit * step) := by
  rw [callRange_eq read moves, ← lt_rangeLength]
  split
  · next tooLarge => simp [tooLarge]
  · next fits => simp [fits]

/-- What comes before the end of a range between words, on the way from its start, is a word. -/
theorem toInt_ofInt_of_before {start stop : Int64} {k : Nat}
    (before : Before step stop.toInt (start.toInt + k * step)) :
    (Int64.ofInt (start.toInt + k * step)).toInt = start.toInt + k * step := by
  have starts := And.intro start.le_toInt start.toInt_lt
  have stops := And.intro stop.le_toInt stop.toInt_lt
  rcases before with ⟨up, before⟩ | ⟨down, before⟩
  · have passed : 0 ≤ (k : Int) * step := Int.mul_nonneg (Int.natCast_nonneg k) up.le
    exact Int64.toInt_ofInt_of_le (by omega) (by omega)
  · have passed : (k : Int) * step ≤ 0 :=
      Int.mul_nonpos_of_nonneg_of_nonpos (Int.natCast_nonneg k) down.le
    exact Int64.toInt_ofInt_of_le (by omega) (by omega)

/-- A range has its numbers as items, from its start on and each one once, if they are not too many.
Their number is the length that is computed before any is listed. -/
theorem call_range_numbers {start stop step : Int64} (moves : step ≠ 0) :
    rangeLength start.toInt stop.toInt step.toInt =
        (numbers start.toInt stop.toInt step.toInt).ncard ∧
      ((numbers start.toInt stop.toInt step.toInt).ncard ≤ sizeLimit →
        ∃ items : List Int64,
          range.call [.int start, .int stop, .int step] = .ok (.list (items.map .int)) ∧
          items.map Int64.toInt =
            (List.range (numbers start.toInt stop.toInt step.toInt).ncard).map
              fun (k : Nat) => start.toInt + k * step.toInt) ∧
      (sizeLimit < (numbers start.toInt stop.toInt step.toInt).ncard →
        range.call [.int start, .int stop, .int step] = .error (.overflow range.name)) := by
  have still : step.toInt ≠ 0 := fun zero => moves (Int64.toInt_inj.1 zero)
  have read : rangeArguments [.int start, .int stop, .int step] =
      .ok (start.toInt, stop.toInt, step.toInt) := rfl
  have call : range.call [.int start, .int stop, .int step] = _ := callRange_eq read still
  rw [ncard_numbers still, call]
  refine ⟨rfl, ?_, fun tooMany => if_pos tooMany⟩
  intro few
  refine ⟨(List.range (rangeLength start.toInt stop.toInt step.toInt)).map
    fun (k : Nat) => Int64.ofInt (start.toInt + k * step.toInt), ?_, ?_⟩
  · rw [if_neg (Nat.not_lt.2 few), steps, List.map_map]
    rfl
  · rw [List.map_map]
    refine List.map_congr_left fun k inside => ?_
    exact toInt_ofInt_of_before ((lt_rangeLength k).1 (List.mem_range.1 inside))

/-- The second number of this range is its last one, as a third one would not be a word. -/
theorem call_range_numbers_lowest :
    Int64.minValue ≠ 0 ∧
      (numbers (5 : Int64).toInt Int64.minValue.toInt Int64.minValue.toInt).ncard = 2 ∧
      ∃ items : List Int64,
        range.call [.int 5, .int Int64.minValue, .int Int64.minValue] =
          .ok (.list (items.map .int)) ∧
        items.map Int64.toInt = [5, 5 - 2 ^ 63] := by
  have moves : Int64.minValue ≠ 0 := by decide
  obtain ⟨counted, listed, -⟩ := @call_range_numbers 5 Int64.minValue Int64.minValue moves
  have two : (numbers (5 : Int64).toInt Int64.minValue.toInt Int64.minValue.toInt).ncard = 2 :=
    counted.symm.trans (by decide)
  obtain ⟨items, call, same⟩ := listed (by rw [two]; decide)
  refine ⟨moves, two, items, call, ?_⟩
  rw [same, two]
  decide

end Stencil.Builtin
