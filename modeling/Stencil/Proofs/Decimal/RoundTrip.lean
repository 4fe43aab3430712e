import Stencil.Proofs.Decimal.Nearest

/-!
# Written doubles are read back

The text of a finite double is read as the same double. A whole one is written exactly. For another
one there is a grid, among those that are tried, whose step is smaller than half the interval, so a
decimal in the interval is found, and no decimal is rounded to anything but the double whose
interval it lies in. Neither decimal is long enough to be shortened, or so large or so small that it
would not be looked at.
-/

namespace Stencil.Decimal

section Grid

variable {i : Interval} {d : Dyadic} {exponent place : Int} {k : Nat}

/-- The step of a grid, in quarters of a unit. -/
def gridStep (exponent place : Int) : ℚ := 10 ^ place * 2 ^ (2 - exponent)

theorem gridStep_pos : 0 < gridStep exponent place := by
  unfold gridStep
  positivity

theorem gridStep_eq (exponent place : Int) :
    gridStep exponent place =
      ((10 ^ place.toNat * 2 ^ (2 - exponent).toNat : Nat) : ℚ) /
        (10 ^ (-place).toNat * 2 ^ (exponent - 2).toNat : Nat) := by
  have ten := zpow_toNat (b := 10) (by decide) place
  have two := zpow_toNat (b := 2) (by decide) (2 - exponent)
  push_cast at ten two ⊢
  rw [neg_sub] at two
  rw [gridStep, ten, two, div_mul_div_comm]

/-- In quarters of a unit, the points of a grid are multiples of its step. -/
theorem quarters (exponent place : Int) (n : ℚ) :
    4 * (n * 10 ^ place / 2 ^ exponent) = n * gridStep exponent place := by
  have four : (2 : ℚ) ^ (2 - exponent) = 4 / 2 ^ exponent := by
    rw [zpow_sub₀ (by norm_num)]
    norm_num
  rw [gridStep, four]
  ring

theorem gridStep_mul (exponent place : Int) (n : ℚ) :
    n * gridStep exponent place * 2 ^ (exponent - 2) = n * 10 ^ place := by
  rw [gridStep, mul_assoc, mul_assoc, ← zpow_add₀ (by norm_num)]
  norm_num

/-- A point that is found on a grid lies in the interval. -/
theorem pointOnGrid?_holds (found : pointOnGrid? i exponent place = some k) :
    i.Holds (k * gridStep exponent place) := by
  have positive : 0 < 10 ^ (-place).toNat * 2 ^ (exponent - 2).toNat := by positivity
  have hits (j : Nat) (hit : i.contains (j * (10 ^ place.toNat * 2 ^ (2 - exponent).toNat))
      (10 ^ (-place).toNat * 2 ^ (exponent - 2).toNat) = true) :
      i.Holds (j * gridStep exponent place) := by
    rw [Interval.contains_iff i positive] at hit
    rw [gridStep_eq, ← mul_div_assoc]
    exact_mod_cast hit
  simp only [pointOnGrid?] at found
  split at found
  · next hit =>
      cases found
      exact hits _ (Bool.and_eq_true_iff.1 hit).1
  · split at found
    · next hit =>
        cases found
        exact hits _ hit
    · cases found

/-- A grid that is fine enough has a point in the interval, the next one above the middle. -/
theorem pointOnGrid?_ne_none (fine : gridStep d.exponent place < 2) :
    pointOnGrid? (.around d) d.exponent place ≠ none := by
  have positive : 0 < 10 ^ (-place).toNat * 2 ^ (d.exponent - 2).toNat := by positivity
  have positive' : 0 < 10 ^ place.toNat * 2 ^ (2 - d.exponent).toNat := by positivity
  have step := gridStep_eq d.exponent place
  have stepPos : 0 < gridStep d.exponent place := gridStep_pos
  rw [pointOnGrid?]
  generalize 10 ^ (-place).toNat * 2 ^ (d.exponent - 2).toNat = den at *
  generalize 10 ^ place.toNat * 2 ^ (2 - d.exponent).toNat = num at *
  have denPos : (0 : ℚ) < den := by exact_mod_cast positive
  have hitAbove : (Interval.around d).contains
      (((Interval.around d).middle * den / num + 1) * num) den = true := by
    rw [Interval.contains_iff _ positive]
    have split := Nat.div_add_mod ((Interval.around d).middle * den) num
    have rest := Nat.mod_lt ((Interval.around d).middle * den) positive'
    have rest' := Nat.zero_le ((Interval.around d).middle * den % num)
    generalize (Interval.around d).middle * den / num = below at split ⊢
    generalize (Interval.around d).middle * den % num = left at split rest rest'
    have above : (Interval.around d).middle * den < (below + 1) * num := by nlinarith
    have near : (below + 1) * num ≤ (Interval.around d).middle * den + num := by nlinarith
    have above' : ((Interval.around d).middle : ℚ) * den < ((below + 1) * num : Nat) := by
      exact_mod_cast above
    have near' : (((below + 1) * num : Nat) : ℚ) ≤ (Interval.around d).middle * den + num := by
      exact_mod_cast near
    have low : ((Interval.around d).low : ℚ) ≤ (Interval.around d).middle := by
      exact_mod_cast Nat.sub_le _ _
    have high : ((Interval.around d).high : ℚ) = (Interval.around d).middle + 2 := by
      simp [Interval.around]
    rw [step, div_lt_iff₀ denPos] at fine
    refine Interval.holds_of_lt ?_ ?_
    · rw [lt_div_iff₀ denPos]
      nlinarith
    · rw [div_lt_iff₀ denPos, high]
      nlinarith
  simp only [hitAbove]
  split <;> simp

/-- The grids are tried up to one that has a point in the interval. -/
theorem firstPoint_spec {last : Int} (hit : pointOnGrid? i exponent last ≠ none) :
    ∀ (fuel : Nat) (place : Int), last ≤ place → place < last + fuel →
      i.Holds ((firstPoint i exponent fuel place).1 *
        gridStep exponent (firstPoint i exponent fuel place).2) ∧
      last ≤ (firstPoint i exponent fuel place).2
  | 0, place, within, enough => by omega
  | fuel + 1, place, within, enough => by
    rw [firstPoint]
    split
    · next digits found => exact ⟨pointOnGrid?_holds found, within⟩
    · next missed =>
        refine firstPoint_spec hit fuel (place - 1) ?_ (by omega)
        have other : last ≠ place := by
          rintro rfl
          exact hit missed
        omega

end Grid

section Fine

variable {d : Dyadic}

/-- A power of ten is no larger than a power of two with a slightly larger exponent; `93 / 28` and
`10 / 3` are next to the logarithm of ten, below and above. -/
theorem ten_zpow_le {p q : Int} (upper : 0 ≤ p → 10 * p ≤ 3 * q)
    (lower : p ≤ 0 → 93 * p ≤ 28 * q) : (10 : ℚ) ^ p ≤ 2 ^ q := by
  rcases Int.le_total 0 p with large | small
  · have bound := upper large
    have cubes : ((10 : ℚ) ^ p) ^ 3 ≤ (2 ^ q) ^ 3 := by
      obtain ⟨n, rfl⟩ := Int.eq_ofNat_of_zero_le large
      calc ((10 : ℚ) ^ (n : Int)) ^ 3 = (10 ^ 3) ^ n := by
            rw [zpow_natCast, ← pow_mul, ← pow_mul, Nat.mul_comm]
        _ ≤ (2 ^ 10) ^ n := by gcongr; norm_num
        _ = 2 ^ (10 * (n : Int)) := by
            rw [← pow_mul, ← zpow_natCast]
            push_cast
            rfl
        _ ≤ 2 ^ (3 * q) := zpow_le_zpow_right₀ (by norm_num) (by omega)
        _ = (2 ^ q) ^ 3 := by rw [mul_comm, zpow_mul]; rfl
    exact le_of_pow_le_pow_left₀ (by decide) (by positivity) cubes
  · have bound := lower small
    have powers : ((10 : ℚ) ^ p) ^ 28 ≤ (2 ^ q) ^ 28 := by
      obtain ⟨n, rfl⟩ : ∃ n : Nat, p = -(n : Int) := ⟨(-p).toNat, by omega⟩
      calc ((10 : ℚ) ^ (-(n : Int))) ^ 28 = ((10 ^ 28) ^ n)⁻¹ := by
            rw [zpow_neg, zpow_natCast, inv_pow, ← pow_mul, ← pow_mul, Nat.mul_comm]
        _ ≤ ((2 ^ 93) ^ n)⁻¹ := by gcongr; norm_num
        _ = 2 ^ (93 * -(n : Int)) := by
            rw [← pow_mul, mul_neg, zpow_neg, ← zpow_natCast]
            push_cast
            rfl
        _ ≤ 2 ^ (28 * q) := zpow_le_zpow_right₀ (by norm_num) (by omega)
        _ = (2 ^ q) ^ 28 := by rw [mul_comm, zpow_mul]; rfl
    exact le_of_pow_le_pow_left₀ (by decide) (by positivity) powers

/-- The last of the grids is fine enough. -/
theorem gridStep_last (double : d.IsDouble) :
    gridStep d.exponent (coarsestPlace d - 19) < 2 := by
  have length : d.mantissa.log2 ≤ 52 := by
    by_cases zero : d.mantissa = 0
    · simp [zero]
    · have := (Nat.log2_lt zero).2 double.small
      omega
  have least := double.least
  have most := double.most
  have small : (10 : ℚ) ^ (coarsestPlace d - 19) ≤ 2 ^ (d.exponent - 2) := by
    rw [leastExponent] at least
    apply ten_zpow_le <;> rw [coarsestPlace] <;> omega
  calc gridStep d.exponent (coarsestPlace d - 19)
      ≤ 2 ^ (d.exponent - 2) * 2 ^ (2 - d.exponent) := by
        rw [gridStep]
        gcongr
    _ = 1 := by
        rw [← zpow_add₀ (by norm_num)]
        norm_num
    _ < 2 := by norm_num

/-- The shortest decimal lies in the interval, and on one of the grids that are tried. -/
theorem shortest_spec (double : d.IsDouble) :
    (Interval.around d).Holds ((shortest d).1 * gridStep d.exponent (shortest d).2) ∧
      coarsestPlace d - 19 ≤ (shortest d).2 :=
  firstPoint_spec (pointOnGrid?_ne_none (gridStep_last double)) 20 _ (by omega) (by omega)

end Fine

/-! ### Rows of digits -/

section Rows

variable {row : List Char} {negative : Bool} {e : Int}

/-- A row of digits behind a number. -/
theorem ofDigitChars_bounds (digits : ∀ c ∈ row, c.isDigit) (n : Nat) :
    n * 10 ^ row.length ≤ Nat.ofDigitChars 10 row n ∧
      Nat.ofDigitChars 10 row n < (n + 1) * 10 ^ row.length := by
  induction row generalizing n with
  | nil => simp
  | cons c cs ih =>
      have isDigit : c.toNat - '0'.toNat < 10 := by
        have isDigit := digits c (by simp)
        simp only [Char.isDigit, Bool.and_eq_true, decide_eq_true_iff, UInt32.le_iff_toNat_le] at isDigit
        have atMost : c.toNat ≤ 57 := isDigit.2
        have zero : '0'.toNat = 48 := rfl
        omega
      obtain ⟨low, high⟩ := ih (fun c h => digits c (List.mem_cons_of_mem _ h))
        (10 * n + (c.toNat - '0'.toNat))
      rw [Nat.ofDigitChars_cons, List.length_cons, Nat.pow_succ]
      generalize c.toNat - '0'.toNat = digit at *
      constructor
      · refine le_trans ?_ low
        nlinarith [Nat.zero_le (10 ^ cs.length * digit)]
      · refine lt_of_lt_of_le high ?_
        have : (10 * n + digit + 1) * 10 ^ cs.length ≤ (10 * n + 10) * 10 ^ cs.length :=
          Nat.mul_le_mul_right _ (by omega)
        nlinarith

theorem digitsValue_significant (row : List Char) :
    digitsValue (significant row) = digitsValue row := by
  induction row with
  | nil => rfl
  | cons c cs ih =>
      rw [significant, List.dropWhile_cons]
      split
      · next zero =>
          obtain rfl : c = '0' := by simpa using zero
          rw [← significant, ih]
          rfl
      · rfl

/-- A row without zeros in front is as long as its number. -/
theorem significant_bounds (digits : ∀ c ∈ row, c.isDigit) (positive : 0 < digitsValue row) :
    0 < (significant row).length ∧
      10 ^ ((significant row).length - 1) ≤ digitsValue row ∧
      digitsValue row < 10 ^ (significant row).length := by
  have digits' : ∀ c ∈ significant row, c.isDigit :=
    fun c h => digits c ((List.dropWhile_sublist _).mem h)
  have leading : (significant row).head?.all (· != '0') = true := by
    have first := List.head?_dropWhile_not (· == '0') row
    rw [significant]
    cases same : (row.dropWhile (· == '0')).head? with
    | none => rfl
    | some c =>
        rw [same] at first
        simpa using first
  rw [← digitsValue_significant row] at positive ⊢
  generalize significant row = row' at *
  cases row' with
  | nil => exact absurd positive (by decide)
  | cons c cs =>
      obtain ⟨-, high⟩ := ofDigitChars_bounds digits' 0
      obtain ⟨low, -⟩ := ofDigitChars_bounds
        (fun c h => digits' c (List.mem_cons_of_mem _ h)) (c.toNat - '0'.toNat)
      have nonzero : 1 ≤ c.toNat - '0'.toNat := by
        have isDigit := digits' c (by simp)
        simp only [Char.isDigit, Bool.and_eq_true, decide_eq_true_iff, ge_iff_le,
          UInt32.le_iff_toNat_le] at isDigit
        have atLeast : 48 ≤ c.toNat := isDigit.1
        have other : c ≠ '0' := by simpa using leading
        have other' : c.toNat ≠ 48 := fun same => other (Char.toNat_inj.1 same)
        have zero : '0'.toNat = 48 := rfl
        omega
      refine ⟨by simp, ?_, by simpa [digitsValue] using high⟩
      rw [digitsValue, Nat.ofDigitChars_cons]
      simp only [Nat.mul_zero, Nat.zero_add, List.length_cons, Nat.add_sub_cancel]
      exact le_trans (Nat.le_mul_of_pos_left _ nonzero) low

/-- A decimal that is neither very large nor very small is read as the double nearest to it. -/
theorem ofDecimal_eq (digits : ∀ c ∈ row, c.isDigit) (positive : 0 < digitsValue row)
    (notSmall : (10 : ℚ) ^ (-400 : Int) ≤ digitsValue row * 10 ^ e)
    (notLarge : digitsValue row * (10 : ℚ) ^ e < 10 ^ (400 : Int)) (near : -400 ≤ e) :
    ofDecimal negative row e = nearestDecimal negative (digitsValue row) e := by
  obtain ⟨nonempty, low, high⟩ := significant_bounds digits positive
  have one : (1 : ℚ) < 10 := by norm_num
  have scale : (0 : ℚ) < 10 ^ e := by positivity
  have below : -400 < ((significant row).length : Int) + e := by
    refine (zpow_lt_zpow_iff_right₀ one).1 (lt_of_le_of_lt notSmall ?_)
    rw [zpow_add₀ (by norm_num), zpow_natCast]
    gcongr
    exact_mod_cast high
  have above : ((significant row).length : Int) - 1 + e < 400 := by
    refine (zpow_lt_zpow_iff_right₀ one).1 (lt_of_le_of_lt ?_ notLarge)
    have cast : ((significant row).length : Int) - 1 = ((significant row).length - 1 : Nat) := by
      omega
    rw [zpow_add₀ (by norm_num), cast, zpow_natCast]
    gcongr
    exact_mod_cast low
  have short : (significant row).length ≤ decisiveDigits := by
    rw [decisiveDigits]
    omega
  have full : (significant row).isEmpty = false := by
    simpa using List.length_pos_iff.1 nonempty
  simp only [ofDecimal, full, shorten, if_pos short, digitsValue_significant, Bool.false_or]
  rw [if_neg (by simpa using below.le), if_neg (by omega)]
  congr 1
  omega

/-- A decimal in the interval around a double is neither very large nor very small. -/
theorem bounds_of_holds {d : Dyadic} {n : Nat} (double : d.IsDouble) (nonzero : 0 < d.mantissa)
    (holds : (Interval.around d).Holds (n * gridStep d.exponent e)) :
    (10 : ℚ) ^ (-400 : Int) ≤ n * 10 ^ e ∧ (n : ℚ) * 10 ^ e < 10 ^ (400 : Int) := by
  have least := double.least
  have most := double.most
  rw [leastExponent] at least
  obtain ⟨low, high, -⟩ := holds.near
  have atLeast : (1 : ℚ) ≤ d.mantissa := by exact_mod_cast nonzero
  have atMost : (d.mantissa : ℚ) ≤ 2 ^ 53 := by exact_mod_cast double.small.le
  have unit : (0 : ℚ) < 2 ^ (d.exponent - 2) := by positivity
  rw [← gridStep_mul d.exponent]
  constructor
  · calc (10 : ℚ) ^ (-400 : Int) ≤ 2 ^ (-1075 : Int) := ten_zpow_le (by decide) (by decide)
      _ ≤ 2 ^ (1 + (d.exponent - 2)) := zpow_le_zpow_right₀ (by norm_num) (by omega)
      _ = 2 * 2 ^ (d.exponent - 2) := by rw [zpow_add₀ (by norm_num), zpow_one]
      _ ≤ n * gridStep d.exponent e * 2 ^ (d.exponent - 2) := by
        gcongr
        linarith
  · calc n * gridStep d.exponent e * 2 ^ (d.exponent - 2)
        ≤ 2 ^ (56 : Int) * 2 ^ (d.exponent - 2) := by
          gcongr
          have power : (2 : ℚ) ^ (56 : Int) = 2 ^ 56 := rfl
          rw [power]
          linarith
      _ = 2 ^ (56 + (d.exponent - 2)) := by rw [zpow_add₀ (by norm_num)]
      _ ≤ 2 ^ (1025 : Int) := zpow_le_zpow_right₀ (by norm_num) (by omega)
      _ < 10 ^ (400 : Int) := by
        have small : (2 : Nat) ^ 1025 < 10 ^ 400 := by decide +kernel
        exact_mod_cast small

/-- A decimal in the interval around a finite double is read as the double. -/
theorem ofDecimal_of_holds {x : Float} {d : Dyadic} (decoded : decode x = .finite negative d)
    (nonzero : 0 < d.mantissa) (digits : ∀ c ∈ row, c.isDigit) (near : -400 ≤ e)
    (holds : (Interval.around d).Holds (digitsValue row * gridStep d.exponent e)) :
    ofDecimal negative row e = x := by
  obtain ⟨notSmall, notLarge⟩ := bounds_of_holds (decode_isDouble decoded) nonzero holds
  have positive : 0 < digitsValue row := by
    refine Nat.pos_of_ne_zero fun zero => ?_
    rw [zero, Nat.cast_zero, zero_mul] at notSmall
    exact absurd notSmall (not_le.2 (by positivity))
  have ratio : ((digitsValue row * 10 ^ e.toNat : Nat) : ℚ) / (10 ^ (-e).toNat : Nat) =
      digitsValue row * 10 ^ e := by
    have power := zpow_toNat (b := 10) (by decide) e
    push_cast at power ⊢
    rw [power, mul_div_assoc]
  rw [ofDecimal_eq digits positive notSmall notLarge near, nearestDecimal]
  refine nearest_eq decoded (by positivity) (by positivity) ?_
  rw [ratio, quarters]
  exact holds

end Rows

section Literals

variable {x : Float} {d : Dyadic}

theorem Dyadic.whole_eq_value (whole : d.isWhole = true) : (d.whole : ℚ) = d.value := by
  have power := zpow_toNat (b := 2) (by decide) d.exponent
  have divides : 2 ^ (-d.exponent).toNat ∣ d.mantissa * 2 ^ d.exponent.toNat :=
    Dvd.dvd.mul_right (Nat.dvd_of_mod_eq_zero (by simpa [Dyadic.isWhole] using whole)) _
  push_cast at power
  rw [Dyadic.whole, Nat.cast_div divides (by positivity), value, power]
  push_cast
  rw [mul_div_assoc]

theorem Interval.holds_middle (nonzero : 0 < d.mantissa) :
    (Interval.around d).Holds (4 * d.mantissa) := by
  have low : (Interval.around d).low < 4 * d.mantissa := by
    simp only [Interval.around]
    split <;> omega
  have high : 4 * d.mantissa < (Interval.around d).high := Nat.lt_add_of_pos_right (by decide)
  exact Interval.holds_of_lt (by exact_mod_cast low) (by exact_mod_cast high)

/-- A text with a point is read as the double in whose interval its number lies. -/
theorem IsPointed.readFloat? {text : List Char} {n places : Nat} (pointed : IsPointed text n places)
    (decoded : decode x = .finite false d) (nonzero : 0 < d.mantissa) (near : places ≤ 400)
    (holds : (Interval.around d).Holds (n * gridStep d.exponent (-places))) :
    Decimal.readFloat? text = some x := by
  obtain ⟨whole, fraction, hw, hf, rfl, rfl, rfl⟩ := pointed
  rw [readFloat?_pointed hw hf,
    ofDecimal_of_holds decoded nonzero (hw.append hf).2 (by omega) holds]

/-- The text of a finite double without a sign is read as this double. -/
theorem readFloat?_chars (unsigned : IsUnsigned x) (finite : IsFinite x) :
    readFloat? (Literal.float x).chars = some x := by
  obtain ⟨negative, d, decoded⟩ := finite
  obtain rfl := decode_unsigned unsigned decoded
  have double := decode_isDouble decoded
  cases whole : d.isWhole with
  | true =>
      have pointed := isPointed_whole decoded whole
      rcases Nat.eq_zero_or_pos d.mantissa with zero | nonzero
      · have least : d.exponent = leastExponent := by
          by_contra other
          have full := double.full (lt_of_le_of_ne double.least (Ne.symm other))
          omega
        have bits : x.toBits.toNat = 0 := by
          rw [decode_bits decoded, Dyadic.bits, zero, least]
          rfl
        obtain rfl : x = Float.ofBits 0 := ext_bits bits
        decide +kernel
      · refine pointed.readFloat? decoded nonzero (by decide) ?_
        have middle : ((10 * d.whole : Nat) : ℚ) * gridStep d.exponent (-(1 : Nat)) =
            4 * d.mantissa := by
          push_cast
          rw [Dyadic.whole_eq_value whole, Dyadic.value, gridStep, zpow_sub₀ (by norm_num)]
          field_simp
          norm_num
        rw [middle]
        exact Interval.holds_middle nonzero
  | false =>
      have nonzero : 0 < d.mantissa := by
        refine Nat.pos_of_ne_zero fun zero => ?_
        simp [Dyadic.isWhole, zero] at whole
      obtain ⟨holds, last⟩ := shortest_spec double
      have below := shortest_lt whole double.small
      refine (isPointed_fractional decoded whole).readFloat? decoded nonzero ?_ ?_
      · have least := double.least
        rw [leastExponent] at least
        rw [coarsestPlace] at last
        omega
      · have place : -((-(shortest d).2).toNat : Int) = (shortest d).2 := by omega
        rw [place]
        exact holds

end Literals

end Stencil.Decimal
