import Stencil.Decimal.Shortest
import Stencil.Proofs.Decimal.Text

/-!
# The nearest double

A ratio that lies in the interval around a double is rounded to this double. The interval is a
matter of rational numbers: the exponent is found by comparing with powers of two, and rounding the
mantissa goes to the number that is no more than one half away.
-/

namespace Stencil.Decimal

/-- The bits of a double tell it from others. -/
theorem ext_bits {x y : Float} (h : x.toBits.toNat = y.toBits.toNat) : x = y := by
  obtain ⟨⟨bits, valid⟩⟩ := x
  obtain ⟨⟨bits', valid'⟩⟩ := y
  obtain rfl : bits = bits' := UInt64.toNat_inj.1 h
  rfl

/-- A power with a whole exponent as a ratio of powers. -/
theorem zpow_toNat {b : Nat} (positive : 0 < b) (e : Int) :
    (b : ℚ) ^ e = (b : ℚ) ^ e.toNat / (b : ℚ) ^ (-e).toNat := by
  have nonzero : (b : ℚ) ≠ 0 := by exact_mod_cast positive.ne'
  rw [← zpow_natCast, ← zpow_natCast, ← zpow_sub₀ nonzero]
  congr 1
  omega

namespace Dyadic

def value (d : Dyadic) : ℚ := d.mantissa * 2 ^ d.exponent

/-- The bits of a double without a sign. -/
def bits (d : Dyadic) : Nat := (d.exponent - leastExponent).toNat * 2 ^ 52 + d.mantissa

/-- What a finite double stands for. -/
structure IsDouble (d : Dyadic) : Prop where
  small : d.mantissa < 2 ^ 53
  least : leastExponent ≤ d.exponent
  most : d.exponent ≤ 971
  full : leastExponent < d.exponent → 2 ^ 52 ≤ d.mantissa

theorem IsDouble.bits_lt {d : Dyadic} (h : d.IsDouble) : d.bits < infinityBits := by
  have := h.small
  have := h.least
  have := h.most
  rw [bits, infinityBits]
  rw [leastExponent] at *
  omega

end Dyadic

section Decode

variable {x : Float} {negative : Bool} {d : Dyadic}

theorem decode_isDouble (h : decode x = .finite negative d) : d.IsDouble := by
  have small := mantissa_lt h
  simp only [decode] at h
  split at h
  · split at h <;> cases h
  · next finite =>
      split at h
      · cases h
        exact ⟨small, le_refl _, (by decide : leastExponent ≤ 971), fun more => absurd more (lt_irrefl _)⟩
      · next nonzero =>
          cases h
          refine ⟨small, ?_, ?_, fun _ => Nat.le_add_right _ _⟩
          · show (-1074 : Int) ≤ _ - 1075
            omega
          · show (_ : Int) - 1075 ≤ 971
            omega

/-- A double with no more bits than infinity is finite or infinity. -/
theorem eq_infinity (bounded : x.toBits.toNat ≤ infinityBits) (other : ¬IsFinite x) :
    x = infinity false := by
  have largest : x.toBits.toNat / 2 ^ 52 % 2 ^ 11 = 2047 := by
    by_contra finite
    apply other
    simp only [IsFinite, decode, if_neg finite]
    split
    · exact ⟨_, _, rfl⟩
    · exact ⟨_, _, rfl⟩
  apply ext_bits
  rw [toBits_infinity]
  rw [infinityBits] at bounded ⊢
  omega

/-- The sign bit on top of the bits of the exponent and of the fraction. -/
theorem fields {n : Nat} (h : n < 2 ^ 64) :
    n = signBit (n / 2 ^ 63 == 1) + ((n / 2 ^ 52 % 2 ^ 11) * 2 ^ 52 + n % 2 ^ 52) := by
  have sign : signBit (n / 2 ^ 63 == 1) = n / 2 ^ 63 * 2 ^ 63 := by
    have two : n / 2 ^ 63 = 0 ∨ n / 2 ^ 63 = 1 := by omega
    rcases two with zero | one
    · rw [zero]
      rfl
    · rw [one]
      rfl
  rw [sign]
  omega

/-- The bits of a finite double. -/
theorem decode_bits (h : decode x = .finite negative d) :
    x.toBits.toNat = signBit negative + d.bits := by
  refine (fields x.toBits.toNat_lt).trans ?_
  simp only [decode] at h
  split at h
  · split at h <;> cases h
  · split at h
    · next zero =>
        cases h
        rw [zero, Dyadic.bits, sub_self]
        rfl
    · next nonzero =>
        cases h
        have exponent (biased : Nat) : ((biased : Int) - 1075 - leastExponent).toNat = biased - 1 := by
          rw [leastExponent]
          omega
        rw [Dyadic.bits, exponent]
        generalize x.toBits.toNat / 2 ^ 52 % 2 ^ 11 = biased at nonzero ⊢
        generalize x.toBits.toNat % 2 ^ 52 = fraction
        have carried : biased * 2 ^ 52 + fraction = (biased - 1) * 2 ^ 52 + (2 ^ 52 + fraction) := by
          omega
        exact congrArg (signBit _ + ·) carried

end Decode

/-! ### Rounding -/

section Rounding

variable {num den m : Nat}

/-- The quotient is rounded to a number no more than one half away, which is even if it is just
that. -/
theorem roundHalfEven_eq (positive : 0 < den) (low : 2 * m * den ≤ 2 * num + den)
    (high : 2 * num ≤ (2 * m + 1) * den)
    (even : m % 2 = 0 ∨ (2 * m * den ≠ 2 * num + den ∧ 2 * num ≠ (2 * m + 1) * den)) :
    roundHalfEven num den = m := by
  have split := Nat.div_add_mod num den
  have rest := Nat.mod_lt num positive
  rw [roundHalfEven]
  generalize num / den = q at split ⊢
  generalize num % den = r at split rest ⊢
  subst split
  -- The quotient is the number, or one less.
  have atMost : q ≤ m := by
    by_contra more
    have : (m + 1) * den ≤ q * den := Nat.mul_le_mul_right den (by omega)
    nlinarith
  have atLeast : m ≤ q + 1 := by
    by_contra less
    have : (q + 2) * den ≤ m * den := Nat.mul_le_mul_right den (by omega)
    nlinarith
  obtain rfl | rfl : q = m ∨ m = q + 1 := by omega
  · have near : 2 * r ≤ den := by nlinarith
    split
    · rfl
    · have tie : 2 * r = den := by omega
      rw [if_neg (by omega)]
      rcases even with even | ⟨-, notTie⟩
      · omega
      · exact absurd (by nlinarith) notTie
  · have far : den ≤ 2 * r := by nlinarith
    rw [if_neg (by omega)]
    split
    · rfl
    · have tie : 2 * r = den := by omega
      rcases even with even | ⟨notTie, -⟩
      · omega
      · exact absurd (by nlinarith) notTie

/-- Comparing a ratio with a power of two needs no fractions. -/
theorem ratio_lt_zpow (positive : 0 < den) (e : Int) :
    (num : ℚ) / den < 2 ^ e ↔ num * 2 ^ (-e).toNat < den * 2 ^ e.toNat := by
  have power := zpow_toNat (b := 2) (by decide) e
  have positive' : (0 : ℚ) < den := by exact_mod_cast positive
  push_cast at power
  rw [power, div_lt_div_iff₀ positive' (by positivity), mul_comm _ (den : ℚ)]
  exact_mod_cast Iff.rfl

/-- The lengths of two numbers give their ratio up to a factor of two. -/
theorem ratio_log2 (numPos : 0 < num) (denPos : 0 < den) :
    (2 : ℚ) ^ ((num.log2 : Int) - den.log2 - 1) < num / den ∧
      (num : ℚ) / den < 2 ^ ((num.log2 : Int) - den.log2 + 1) := by
  have denPos' : (0 : ℚ) < den := by exact_mod_cast denPos
  have numLow : (2 : ℚ) ^ (num.log2 : Int) ≤ num := by
    exact_mod_cast Nat.log2_self_le (by omega)
  have numHigh : (num : ℚ) < 2 ^ ((num.log2 : Int) + 1) := by
    exact_mod_cast Nat.lt_log2_self
  have denLow : (2 : ℚ) ^ (den.log2 : Int) ≤ den := by
    exact_mod_cast Nat.log2_self_le (by omega)
  have denHigh : (den : ℚ) < 2 ^ ((den.log2 : Int) + 1) := by
    exact_mod_cast Nat.lt_log2_self
  constructor
  · rw [lt_div_iff₀ denPos']
    calc (2 : ℚ) ^ ((num.log2 : Int) - den.log2 - 1) * den
        < 2 ^ ((num.log2 : Int) - den.log2 - 1) * 2 ^ ((den.log2 : Int) + 1) := by gcongr
      _ = 2 ^ (num.log2 : Int) := by
        rw [← zpow_add₀ (by norm_num)]
        congr 1
        ring
      _ ≤ num := numLow
  · rw [div_lt_iff₀ denPos']
    calc (num : ℚ) < 2 ^ ((num.log2 : Int) + 1) := numHigh
      _ = 2 ^ ((num.log2 : Int) - den.log2 + 1) * 2 ^ (den.log2 : Int) := by
        rw [← zpow_add₀ (by norm_num)]
        congr 1
        ring
      _ ≤ 2 ^ ((num.log2 : Int) - den.log2 + 1) * den := by gcongr

/-- The exponent is the least one for which the mantissa is small enough. -/
theorem exponentOf_eq (numPos : 0 < num) (denPos : 0 < den) {e : Int}
    (least : leastExponent ≤ e) (below : (num : ℚ) / den < 2 ^ (53 + e))
    (above : leastExponent < e → (2 : ℚ) ^ (52 + e) ≤ num / den) : exponentOf num den = e := by
  have one : (1 : ℚ) < 2 := by norm_num
  obtain ⟨low, high⟩ := ratio_log2 numPos denPos
  rw [exponentOf]
  generalize (num.log2 : Int) - den.log2 = scale at low high ⊢
  by_cases small : (num : ℚ) / den < 2 ^ scale
  · rw [if_pos ((ratio_lt_zpow denPos scale).1 small)]
    have atMost : scale - 1 < 53 + e := (zpow_lt_zpow_iff_right₀ one).1 (low.trans below)
    rcases least.eq_or_lt with rfl | more
    · omega
    · have atLeast : 52 + e < scale :=
        (zpow_lt_zpow_iff_right₀ one).1 ((above more).trans_lt small)
      omega
  · rw [if_neg (mt (ratio_lt_zpow denPos scale).2 small)]
    have atMost : scale < 53 + e :=
      (zpow_lt_zpow_iff_right₀ one).1 ((not_lt.1 small).trans_lt below)
    rcases least.eq_or_lt with rfl | more
    · omega
    · have atLeast : 52 + e < scale + 1 :=
        (zpow_lt_zpow_iff_right₀ one).1 ((above more).trans_lt high)
      omega

/-- A ratio in units of a power of two. -/
theorem ratio_div_zpow (num den : Nat) (e : Int) :
    ((num * 2 ^ (-e).toNat : Nat) : ℚ) / (den * 2 ^ e.toNat : Nat) = (num : ℚ) / den / 2 ^ e := by
  have power := zpow_toNat (b := 2) (by decide) e
  push_cast at power ⊢
  rw [power, div_div_div_eq]

/-- A mantissa is rounded to the number that it is no more than one half away from. -/
theorem roundHalfEven_ratio (positive : 0 < den) {e : Int}
    (low : (m : ℚ) - 1 / 2 ≤ (num : ℚ) / den / 2 ^ e)
    (high : (num : ℚ) / den / 2 ^ e ≤ m + 1 / 2)
    (even : m % 2 = 0 ∨
      ((m : ℚ) - 1 / 2 < (num : ℚ) / den / 2 ^ e ∧ (num : ℚ) / den / 2 ^ e < m + 1 / 2)) :
    roundHalfEven (num * 2 ^ (-e).toNat) (den * 2 ^ e.toNat) = m := by
  have below : 0 < den * 2 ^ e.toNat := by positivity
  rw [← ratio_div_zpow] at low high even
  generalize num * 2 ^ (-e).toNat = n at *
  generalize den * 2 ^ e.toNat = k at *
  have kPos : (0 : ℚ) < k := by exact_mod_cast below
  have lower : ((2 * m * k : Nat) : ℚ) ≤ (2 * n + k : Nat) := by
    rw [le_div_iff₀ kPos] at low
    push_cast
    linarith
  have upper : ((2 * n : Nat) : ℚ) ≤ ((2 * m + 1) * k : Nat) := by
    rw [div_le_iff₀ kPos] at high
    push_cast
    linarith
  refine roundHalfEven_eq below (by exact_mod_cast lower) (by exact_mod_cast upper) ?_
  rcases even with even | ⟨strictLow, strictHigh⟩
  · exact .inl even
  · rw [lt_div_iff₀ kPos] at strictLow
    rw [div_lt_iff₀ kPos] at strictHigh
    refine .inr ⟨fun tie => ?_, fun tie => ?_⟩
    · have tie' : ((2 * m * k : Nat) : ℚ) = (2 * n + k : Nat) := by exact_mod_cast tie
      push_cast at tie'
      linarith
    · have tie' : ((2 * n : Nat) : ℚ) = ((2 * m + 1) * k : Nat) := by exact_mod_cast tie
      push_cast at tie'
      linarith

end Rounding

/-! ### The interval around a double -/

/-- Whether a rational number of quarters lies in the interval. -/
def Interval.Holds (i : Interval) (t : ℚ) : Prop :=
  if i.closed then i.low ≤ t ∧ t ≤ i.high else i.low < t ∧ t < i.high

theorem Interval.holds_of_lt {i : Interval} {t : ℚ} (low : i.low < t) (high : t < i.high) :
    i.Holds t := by
  rw [Interval.Holds]
  split
  · exact ⟨low.le, high.le⟩
  · exact ⟨low, high⟩

theorem Interval.contains_iff (i : Interval) {num den : Nat} (positive : 0 < den) :
    i.contains num den = true ↔ i.Holds ((num : ℚ) / den) := by
  have denPos : (0 : ℚ) < den := by exact_mod_cast positive
  rw [Interval.contains, Interval.Holds]
  split
  · rw [Bool.and_eq_true, decide_eq_true_iff, decide_eq_true_iff, le_div_iff₀ denPos,
      div_le_iff₀ denPos]
    exact_mod_cast Iff.rfl
  · rw [Bool.and_eq_true, decide_eq_true_iff, decide_eq_true_iff, lt_div_iff₀ denPos,
      div_lt_iff₀ denPos]
    exact_mod_cast Iff.rfl

section Around

variable {d : Dyadic} {num den : Nat} {t : ℚ}

/-- A point of the interval in quarters is no more than two of them from the middle, and exactly two
only if the mantissa is even. -/
theorem Interval.Holds.near (h : (Interval.around d).Holds t) :
    4 * (d.mantissa : ℚ) - 2 ≤ t ∧ t ≤ 4 * d.mantissa + 2 ∧
      (d.mantissa % 2 = 0 ∨ (4 * (d.mantissa : ℚ) - 2 < t ∧ t < 4 * d.mantissa + 2)) := by
  have low : 4 * (d.mantissa : ℚ) - 2 ≤ (Interval.around d).low := by
    have cast : ((4 * d.mantissa : Nat) : ℚ) ≤ ((Interval.around d).low + 2 : Nat) := by
      exact_mod_cast Interval.le_low_around d
    push_cast at cast
    linarith
  have high : ((Interval.around d).high : ℚ) = 4 * d.mantissa + 2 := by
    simp [Interval.around]
  rw [Interval.Holds, high] at h
  split at h
  · next closed =>
      have even : d.mantissa % 2 = 0 := by simpa [Interval.around] using closed
      exact ⟨low.trans h.1, h.2, .inl even⟩
  · exact ⟨(low.trans_lt h.1).le, h.2.le, .inr ⟨low.trans_lt h.1, h.2⟩⟩

/-- Below a power of two the interval is only half as wide. -/
theorem Interval.Holds.low_of_power (h : (Interval.around d).Holds t)
    (power : d.mantissa = 2 ^ 52) (more : leastExponent < d.exponent) :
    4 * (d.mantissa : ℚ) - 1 ≤ t := by
  have low : ((Interval.around d).low : ℚ) = 4 * d.mantissa - 1 := by
    have natural : (Interval.around d).low + 1 = 4 * d.mantissa := by
      simp only [Interval.around]
      rw [if_pos ⟨power, more⟩]
      omega
    have cast : (((Interval.around d).low + 1 : Nat) : ℚ) = (4 * d.mantissa : Nat) := by
      exact_mod_cast natural
    push_cast at cast
    linarith
  rw [Interval.Holds, low] at h
  split at h
  · exact h.1
  · exact h.1.le

/-- A ratio with the exponent of the double is rounded to its mantissa. -/
theorem nearestBits_ordinary (double : d.IsDouble) (numPos : 0 < num) (denPos : 0 < den)
    (h : (Interval.around d).Holds (4 * ((num : ℚ) / den / 2 ^ d.exponent)))
    (ordinary : leastExponent < d.exponent → (2 : ℚ) ^ (52 + d.exponent) ≤ (num : ℚ) / den) :
    nearestBits num den = d.bits := by
  have unit : (0 : ℚ) < 2 ^ d.exponent := by positivity
  obtain ⟨low, high, even⟩ := h.near
  have small : (d.mantissa : ℚ) ≤ 2 ^ 53 - 1 := by
    have natural : d.mantissa + 1 ≤ 2 ^ 53 := double.small
    have cast : ((d.mantissa + 1 : Nat) : ℚ) ≤ (2 ^ 53 : Nat) := by exact_mod_cast natural
    push_cast at cast
    linarith
  have below : (num : ℚ) / den < 2 ^ (53 + d.exponent) := by
    have power : (2 : ℚ) ^ (53 : Int) = 2 ^ 53 := rfl
    rw [zpow_add₀ (by norm_num), ← div_lt_iff₀ unit, power]
    linarith
  have exponent := exponentOf_eq numPos denPos double.least below ordinary
  have mantissa : roundHalfEven (num * 2 ^ (-d.exponent).toNat) (den * 2 ^ d.exponent.toNat) =
      d.mantissa := by
    refine roundHalfEven_ratio denPos (by linarith) (by linarith) ?_
    rcases even with even | ⟨strictLow, strictHigh⟩
    · exact .inl even
    · exact .inr ⟨by linarith, by linarith⟩
  rw [nearestBits, if_neg (by omega)]
  simp only [exponent, mantissa]
  exact min_eq_right double.bits_lt.le

/-- Just below a power of two the exponent is one less, and the mantissa is rounded up to the power,
so that it carries. -/
theorem nearestBits_below_power (double : d.IsDouble) (numPos : 0 < num) (denPos : 0 < den)
    (h : (Interval.around d).Holds (4 * ((num : ℚ) / den / 2 ^ d.exponent)))
    (more : leastExponent < d.exponent) (under : (num : ℚ) / den < 2 ^ (52 + d.exponent)) :
    nearestBits num den = d.bits := by
  have unit : (0 : ℚ) < 2 ^ d.exponent := by positivity
  have under' : (num : ℚ) / den / 2 ^ d.exponent < 2 ^ 52 := by
    rw [zpow_add₀ (by norm_num), ← div_lt_iff₀ unit] at under
    exact_mod_cast under
  have power : d.mantissa = 2 ^ 52 := by
    have full := double.full more
    have low := h.near.1
    have atMost : (d.mantissa : ℚ) < (2 ^ 52 + 1 : Nat) := by
      push_cast
      linarith
    have atMost' : d.mantissa < 2 ^ 52 + 1 := by exact_mod_cast atMost
    omega
  have near := h.low_of_power power more
  have mantissaPower : (d.mantissa : ℚ) = 2 ^ 52 := by exact_mod_cast power
  have twice : (num : ℚ) / den / 2 ^ (d.exponent - 1) =
      2 * ((num : ℚ) / den / 2 ^ d.exponent) := by
    rw [zpow_sub₀ (by norm_num), zpow_one]
    field_simp
  have exponent : exponentOf num den = d.exponent - 1 := by
    refine exponentOf_eq numPos denPos (by omega) ?_ fun _ => ?_
    · have same : (53 : Int) + (d.exponent - 1) = 52 + d.exponent := by ring
      rw [same]
      exact under
    · have half : (0 : ℚ) < 2 ^ (d.exponent - 1) := by positivity
      rw [zpow_add₀ (by norm_num), ← le_div_iff₀ half, twice]
      norm_num at mantissaPower ⊢
      linarith
  have mantissa : roundHalfEven (num * 2 ^ (-(d.exponent - 1)).toNat)
      (den * 2 ^ (d.exponent - 1).toNat) = 2 ^ 53 := by
    refine roundHalfEven_ratio denPos ?_ ?_ (.inl (by decide))
    · rw [twice]
      norm_num at mantissaPower ⊢
      linarith
    · rw [twice]
      norm_num at under' ⊢
      linarith
  have carried : (d.exponent - 1 - leastExponent).toNat * 2 ^ 52 + 2 ^ 53 = d.bits := by
    rw [Dyadic.bits, power]
    omega
  rw [nearestBits, if_neg (by omega)]
  simp only [exponent, mantissa]
  exact (congrArg (min infinityBits) carried).trans (min_eq_right double.bits_lt.le)

/-- A ratio in the interval around a double has the bits of the double. -/
theorem nearestBits_eq (double : d.IsDouble) (numPos : 0 < num) (denPos : 0 < den)
    (h : (Interval.around d).Holds (4 * ((num : ℚ) / den / 2 ^ d.exponent))) :
    nearestBits num den = d.bits := by
  by_cases ordinary : leastExponent < d.exponent → (2 : ℚ) ^ (52 + d.exponent) ≤ (num : ℚ) / den
  · exact nearestBits_ordinary double numPos denPos h ordinary
  · push Not at ordinary
    exact nearestBits_below_power double numPos denPos h ordinary.1 ordinary.2

/-- What lies in the interval around a finite double is nearest to it. -/
theorem nearest_eq {x : Float} {negative : Bool} (decoded : decode x = .finite negative d)
    (numPos : 0 < num) (denPos : 0 < den)
    (h : (Interval.around d).Holds (4 * ((num : ℚ) / den / 2 ^ d.exponent))) :
    nearest negative num den = x := by
  have double := decode_isDouble decoded
  have bits := decode_bits decoded
  apply ext_bits
  rw [nearest, nearestBits_eq double numPos denPos h, bits, toBits_ofBits]
  · have bound := double.bits_lt
    rw [infinityBits] at bound ⊢
    cases negative <;> simp [signBit] <;> omega
  · rw [← bits]
    exact x.toBits.toNat_lt

end Around

end Stencil.Decimal
