import Stencil.Expr
import Stencil.Proofs.Decimal.Bits

/-!
# The text of a float literal

A finite float without a sign is written as a row of digits, a point and another row of digits. For
a whole one the text says so outright. Another one lies off every grid whose points are whole
numbers, so its shortest decimal has places behind the point.
-/

namespace Stencil.Decimal

/-- Whether a double is a number, and not infinite. -/
def IsFinite (x : Float) : Prop := ∃ negative magnitude, decode x = .finite negative magnitude

/-- One or more digits. -/
def IsRow (row : List Char) : Prop := row ≠ [] ∧ ∀ c ∈ row, c.isDigit

/-- The text of a decimal with a point: of a whole number, divided by ten for each of the places
behind the point. -/
def IsPointed (text : List Char) (n places : Nat) : Prop :=
  ∃ whole fraction, IsRow whole ∧ IsRow fraction ∧ text = whole ++ '.' :: fraction ∧
    digitsValue (whole ++ fraction) = n ∧ fraction.length = places

theorem isRow_natDigits (n : Nat) : IsRow (natDigits n) := by
  constructor
  · exact Nat.toDigits_ne_nil
  · intro c hc
    exact Nat.isDigit_of_mem_toDigits (by decide) (by decide) hc

@[simp] theorem digitsValue_natDigits (n : Nat) : digitsValue (natDigits n) = n :=
  Nat.ofDigitChars_ten_toDigits

section Shape

variable {x : Float} {negative : Bool} {d : Dyadic} {place : Int}

theorem decode_unsigned (unsigned : IsUnsigned x) (h : decode x = .finite negative d) :
    negative = false := by
  have high : x.toBits.toNat / 2 ^ 63 = 0 := Nat.div_eq_of_lt unsigned
  simp only [decode, high] at h
  split at h
  · split at h <;> cases h
  · split at h <;> cases h <;> rfl

theorem decode_infinite_unsigned (unsigned : IsUnsigned x) (h : decode x = .infinite negative) :
    negative = false := by
  have high : x.toBits.toNat / 2 ^ 63 = 0 := Nat.div_eq_of_lt unsigned
  simp only [decode, high] at h
  split at h
  · split at h
    · cases h
      rfl
    · cases h
  · split at h <;> cases h

theorem mantissa_lt (h : decode x = .finite negative d) : d.mantissa < 2 ^ 53 := by
  simp only [decode] at h
  split at h
  · split at h <;> cases h
  · split at h
    · cases h
      show x.toBits.toNat % 2 ^ 52 < 2 ^ 53
      omega
    · cases h
      show 2 ^ 52 + x.toBits.toNat % 2 ^ 52 < 2 ^ 53
      omega

/-- The interval starts no more than half a unit below its middle. -/
theorem Interval.le_low_around (d : Dyadic) : 4 * d.mantissa ≤ (Interval.around d).low + 2 := by
  simp only [Interval.around]
  split <;> omega

/-- A point of the interval is no further than half a unit from its middle. -/
theorem Interval.contains_around {num den : Nat} (h : (Interval.around d).contains num den = true) :
    (4 * d.mantissa - 2) * den ≤ num ∧ num ≤ (4 * d.mantissa + 2) * den := by
  have lower := Nat.mul_le_mul_right den (Nat.sub_le_of_le_add (Interval.le_low_around d))
  rw [Interval.contains] at h
  split at h
  · simp only [Bool.and_eq_true, decide_eq_true_iff] at h
    exact ⟨Nat.le_trans lower h.1, h.2⟩
  · simp only [Bool.and_eq_true, decide_eq_true_iff] at h
    exact ⟨Nat.le_trans lower (Nat.le_of_lt h.1), Nat.le_of_lt h.2⟩

/-- Only a whole number has a whole number in its interval. -/
theorem pointOnGrid?_eq_none (fractional : d.isWhole = false) (whole : 0 ≤ place) :
    pointOnGrid? (.around d) d.exponent place = none := by
  have rest : d.mantissa % 2 ^ (-d.exponent).toNat ≠ 0 := by
    simpa [Dyadic.isWhole] using fractional
  have small : d.exponent < 0 := by
    by_contra large
    have none : (-d.exponent).toNat = 0 := by omega
    rw [none] at rest
    omega
  have unit : (2 - d.exponent).toNat = 2 + (-d.exponent).toNat := by omega
  have misses (k : Nat) :
      (Interval.around d).contains (k * (10 ^ place.toNat * 2 ^ (2 - d.exponent).toNat))
        (10 ^ (-place).toNat * 2 ^ (d.exponent - 2).toNat) = false := by
    by_contra hit
    have near := Interval.contains_around (by simpa using hit)
    have one : 10 ^ (-place).toNat * 2 ^ (d.exponent - 2).toNat = 1 := by
      have first : (-place).toNat = 0 := by omega
      have second : (d.exponent - 2).toNat = 0 := by omega
      rw [first, second]
      rfl
    have four : k * (10 ^ place.toNat * 2 ^ (2 - d.exponent).toNat) =
        4 * (k * 10 ^ place.toNat * 2 ^ (-d.exponent).toNat) := by
      rw [unit, Nat.pow_add]
      ring
    rw [one, four] at near
    have same : d.mantissa = k * 10 ^ place.toNat * 2 ^ (-d.exponent).toNat := by omega
    rw [same, Nat.mul_mod_left] at rest
    exact rest rfl
  simp [pointOnGrid?, misses]

theorem firstPoint_lt {i : Interval} {exponent : Int}
    (misses : ∀ p, 0 ≤ p → pointOnGrid? i exponent p = none) :
    ∀ (fuel : Nat) (place : Int), place < fuel → (firstPoint i exponent fuel place).2 < 0
  | 0, place, near => by
    rw [firstPoint]
    omega
  | fuel + 1, place, near => by
    rw [firstPoint]
    split
    · next hit =>
        by_contra whole
        rw [misses place (by simpa using whole)] at hit
        cases hit
    · exact firstPoint_lt misses fuel (place - 1) (by omega)

/-- A number that is not whole has places behind the point. -/
theorem shortest_lt (fractional : d.isWhole = false) (small : d.mantissa < 2 ^ 53) :
    (shortest d).2 < 0 := by
  refine firstPoint_lt (fun p whole => pointOnGrid?_eq_none fractional whole) 20 _ ?_
  have negative : d.exponent < 0 := by
    by_contra large
    have none : (-d.exponent).toNat = 0 := by omega
    simp [Dyadic.isWhole, none, Nat.mod_one] at fractional
  have length : d.mantissa.log2 < 53 := by
    by_cases zero : d.mantissa = 0
    · simp [zero]
    · exact (Nat.log2_lt zero).2 small
  rw [coarsestPlace]
  omega

theorem isPointed_positional {row : List Char} (digits : IsRow row) (below : place < 0) :
    IsPointed (positional row place) (digitsValue row) (-place).toNat := by
  have later : ¬0 ≤ place := by omega
  rw [positional, if_neg later]
  simp only
  split
  · next short =>
      refine ⟨_, _, ⟨?_, ?_⟩, ⟨?_, ?_⟩, rfl, ?_, ?_⟩
      · apply List.ne_nil_of_length_pos
        rw [List.length_take]
        omega
      · intro c hc
        exact digits.2 c (List.mem_of_mem_take hc)
      · apply List.ne_nil_of_length_pos
        rw [List.length_drop]
        omega
      · intro c hc
        exact digits.2 c (List.mem_of_mem_drop hc)
      · rw [List.take_append_drop]
      · rw [List.length_drop]
        omega
  · next long =>
      refine ⟨['0'], List.replicate ((-place).toNat - row.length) '0' ++ row,
        ⟨by simp, by simp⟩, ⟨?_, ?_⟩, rfl, ?_, ?_⟩
      · simp [digits.1]
      · intro c hc
        rcases List.mem_append.1 hc with zero | digit
        · obtain rfl := List.eq_of_mem_replicate zero
          rfl
        · exact digits.2 c digit
      · simp [digitsValue, Nat.ofDigitChars_cons, Nat.ofDigitChars_append]
      · rw [List.length_append, List.length_replicate]
        omega

/-- A whole float is written with all its digits. -/
theorem isPointed_whole (decoded : decode x = .finite false d) (whole : d.isWhole = true) :
    IsPointed (Literal.float x).chars (10 * d.whole) 1 := by
  have isWhole : isWhole x = true := by simp [Decimal.isWhole, decoded, whole]
  have value : digitsValue (natDigits d.whole ++ ['0']) = 10 * d.whole := by
    rw [digitsValue, Nat.ofDigitChars_append, ← digitsValue, digitsValue_natDigits]
    rfl
  rw [Literal.chars, if_pos isWhole, wholeFloatText, decoded]
  exact ⟨_, ['0'], isRow_natDigits _, ⟨by simp, by simp⟩, rfl, value, rfl⟩

/-- Another float is written as its shortest decimal. -/
theorem isPointed_fractional (decoded : decode x = .finite false d)
    (fractional : d.isWhole = false) :
    IsPointed (Literal.float x).chars (shortest d).1 (-(shortest d).2).toNat := by
  have notWhole : ¬isWhole x = true := by simp [Decimal.isWhole, decoded, fractional]
  have nonzero : d.mantissa ≠ 0 := by
    intro zero
    simp [Dyadic.isWhole, zero] at fractional
  have pointed := isPointed_positional (isRow_natDigits (shortest d).1)
    (shortest_lt fractional (mantissa_lt decoded))
  rw [digitsValue_natDigits] at pointed
  rw [Literal.chars, if_neg notWhole, floatText, decoded]
  simp only [if_neg nonzero]
  exact pointed

/-- A finite float literal without a sign is written with a point. -/
theorem isPointed_chars (unsigned : IsUnsigned x) (finite : IsFinite x) :
    ∃ n places, IsPointed (Literal.float x).chars n places := by
  obtain ⟨negative, d, decoded⟩ := finite
  obtain rfl := decode_unsigned unsigned decoded
  cases whole : d.isWhole with
  | true => exact ⟨_, _, isPointed_whole decoded whole⟩
  | false => exact ⟨_, _, isPointed_fractional decoded whole⟩

end Shape

section Reading

variable {row rest : List Char} {c : Char}

theorem IsRow.append {row' : List Char} (h : IsRow row) (h' : IsRow row') :
    IsRow (row ++ row') := by
  constructor
  · simp [h.1]
  · intro c hc
    exact (List.mem_append.1 hc).elim (h.2 c) (h'.2 c)

/-- A row of digits ends where no digit follows. -/
theorem spanDigits_append (digits : IsRow row) (ends : rest.head?.all fun c => !c.isDigit) :
    spanDigits (row ++ rest) = (row, rest) := by
  rw [spanDigits, List.span_eq_takeWhile_dropWhile, List.takeWhile_append_of_pos digits.2,
    List.dropWhile_append_of_pos digits.2]
  cases rest with
  | nil => simp
  | cons c cs =>
      have other : c.isDigit = false := by simpa using ends
      simp [other]

theorem spanSign_digit (digit : c.isDigit) : spanSign (c :: rest) = (false, c :: rest) := by
  rw [spanSign.eq_3]
  · rintro cs ⟨⟩
    exact absurd digit (by decide)
  · rintro cs ⟨⟩
    exact absurd digit (by decide)

/-- The names of doubles do not start with a digit. -/
theorem readName?_digit (digit : c.isDigit) : readName? false (c :: rest) = none := by
  have lower : c.toLower = c := by
    have atMost : c.val ≤ '9'.val := by
      simp only [Char.isDigit, Bool.and_eq_true, decide_eq_true_iff] at digit
      exact digit.2
    rw [Char.toLower, dif_neg]
    rintro ⟨atLeast, -⟩
    exact absurd (UInt32.le_trans atLeast atMost) (by decide)
  have differs (name : String) (letter : name.toList.head?.all fun c => !c.isDigit)
      (nonempty : name.toList ≠ []) : String.ofList ((c :: rest).map Char.toLower) ≠ name := by
    rintro rfl
    simp [lower, digit] at letter
  simp only [readName?]
  rw [if_neg, if_neg (differs "nan" (by decide) (by decide))]
  rintro (same | same)
  · exact differs "inf" (by decide) (by decide) same
  · exact differs "infinity" (by decide) (by decide) same

/-- What a decimal with a point is read as. -/
theorem readFloat?_pointed {whole fraction : List Char} (hw : IsRow whole) (hf : IsRow fraction) :
    readFloat? (whole ++ '.' :: fraction) =
      some (ofDecimal false (whole ++ fraction) (-fraction.length)) := by
  have first : spanDigits (whole ++ '.' :: fraction) = (whole, '.' :: fraction) :=
    spanDigits_append hw rfl
  have second : spanDigits fraction = (fraction, []) := by
    have ends : spanDigits (fraction ++ []) = (fraction, []) := spanDigits_append hf (by decide)
    simpa using ends
  have magnitude : readMagnitude? false (whole ++ '.' :: fraction) =
      some (ofDecimal false (whole ++ fraction) (-fraction.length)) := by
    simp [readMagnitude?, first, second, hw.1, readExponent?]
  obtain ⟨c, cs, rfl⟩ := List.exists_cons_of_ne_nil hw.1
  have digit : c.isDigit := hw.2 c (by simp)
  rw [List.cons_append] at magnitude ⊢
  rw [readFloat?, spanSign_digit digit]
  simp only [readName?_digit digit, magnitude]
  rfl

end Reading

end Stencil.Decimal
