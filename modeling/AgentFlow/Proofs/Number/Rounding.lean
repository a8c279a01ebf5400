import AgentFlow.Number.Binary64
import Mathlib.Algebra.Order.Field.Power
import Mathlib.Algebra.Order.Ring.Rat
import Mathlib.Data.Nat.Digits.Defs
import Mathlib.Tactic.FieldSimp
import Mathlib.Tactic.Linarith
import Mathlib.Tactic.NormNum.Pow
import Mathlib.Tactic.Positivity

/-!
# Rounding to the nearest double

The magnitude of a finite double is a rational number, and so is what decimal digits spell.  A
number that is closer to a double than one part in `2 ^ 54` reads as this double; a power of two,
below which doubles are twice as dense, is a case of its own.
-/

namespace AgentFlow

/-! ## Rounded quotients -/

variable {n d n' d' k : Nat}

theorem roundedQuotient_eq (pos : 0 < d) (near : |(n : ℚ) / d - k| < 1 / 2) :
    roundedQuotient n d = k := by
  have positive : (0 : ℚ) < d := by exact_mod_cast pos
  obtain ⟨above, below⟩ := abs_lt.1 near
  have lower : 2 * (k * d) < 2 * n + d := by
    have : (k : ℚ) - 1 / 2 < n / d := by linarith
    rw [lt_div_iff₀ positive] at this
    have : (2 * (k * d) : ℚ) < 2 * n + d := by linarith
    exact_mod_cast this
  have upper : 2 * n < 2 * (k * d) + d := by
    have : (n : ℚ) / d < k + 1 / 2 := by linarith
    rw [div_lt_iff₀ positive] at this
    have : (2 * n : ℚ) < 2 * (k * d) + d := by linarith
    exact_mod_cast this
  have whole : d * (n / d) + n % d = n := Nat.div_add_mod n d
  have small : n % d < d := Nat.mod_lt n pos
  simp only [roundedQuotient]
  generalize n / d = q at *
  generalize n % d = r at *
  -- a multiple of the denominator that is off by one is off by too much
  have apart (i j : Nat) (less : i < j) : i * d + d ≤ j * d := by
    calc i * d + d = (i + 1) * d := by ring
      _ ≤ j * d := Nat.mul_le_mul_right d less
  rw [Nat.mul_comm d q] at whole
  rcases Nat.lt_trichotomy (2 * r) d with less | same | more
  · rw [if_pos less]
    rcases Nat.lt_trichotomy q k with before | equal | after
    · have := apart q k before
      omega
    · exact equal
    · have := apart k q after
      omega
  · rcases Nat.lt_or_ge q k with before | after
    · have := apart q k before
      omega
    · have := Nat.mul_le_mul_right d after
      omega
  · rw [if_neg (by omega), if_pos more]
    rcases Nat.lt_trichotomy (q + 1) k with before | equal | after
    · have := apart (q + 1) k before
      have : (q + 1) * d = q * d + d := by ring
      omega
    · exact equal
    · have := Nat.mul_le_mul_right d (Nat.lt_succ_iff.1 after)
      omega

theorem roundedQuotient_scaled (c : Nat) (pos : 0 < c) :
    roundedQuotient (n * c) (d * c) = roundedQuotient n d := by
  have twice : 2 * (n % d * c) = 2 * (n % d) * c := by ring
  simp only [roundedQuotient, Nat.mul_div_mul_right n d pos, Nat.mul_mod_mul_right, twice,
    Nat.mul_lt_mul_right pos]

theorem roundedQuotient_congr (pos : 0 < d) (pos' : 0 < d') (same : n * d' = n' * d) :
    roundedQuotient n d = roundedQuotient n' d' := by
  rw [← roundedQuotient_scaled d' pos', same, Nat.mul_comm d d', roundedQuotient_scaled d pos]

/-! ## Powers next to a number -/

theorem zpow_place_unique {b v : ℚ} {i j : Int} (base : 1 < b) (low : b ^ i ≤ v)
    (high : v < b ^ (i + 1)) (low' : b ^ j ≤ v) (high' : v < b ^ (j + 1)) : i = j := by
  have before : i < j + 1 := (zpow_lt_zpow_iff_right₀ base).1 (low.trans_lt high')
  have after : j < i + 1 := (zpow_lt_zpow_iff_right₀ base).1 (low'.trans_lt high)
  omega

theorem zpow_le_of_digits (pos : 0 < n) :
    (10 : ℚ) ^ (((Nat.toDigits 10 n).length : Int) - 1) ≤ n ∧
      (n : ℚ) < 10 ^ ((Nat.toDigits 10 n).length : Int) := by
  have counted : 0 < (Nat.toDigits 10 n).length := Nat.length_toDigits_pos
  constructor
  · have enough : 10 ^ ((Nat.toDigits 10 n).length - 1) ≤ n := by
      rcases Nat.eq_zero_or_pos ((Nat.toDigits 10 n).length - 1) with none | some
      · rw [none]
        exact pos
      · by_contra short
        have := (Nat.length_toDigits_le_iff (b := 10) (by decide) some).2 (Nat.lt_of_not_le short)
        omega
    have exponent : ((Nat.toDigits 10 n).length : Int) - 1 =
        (((Nat.toDigits 10 n).length - 1 : Nat) : Int) := by omega
    rw [exponent, zpow_natCast]
    exact_mod_cast enough
  · rw [zpow_natCast]
    exact_mod_cast (Nat.length_toDigits_le_iff (b := 10) (by decide) counted).1 (Nat.le_refl _)

theorem cast_pow_toNat (b : Nat) {e : Int} (nonneg : 0 ≤ e) :
    ((Nat.pow b e.toNat : Nat) : ℚ) = (b : ℚ) ^ e := by
  rw [Nat.pow_eq, Nat.cast_pow, ← zpow_natCast, Int.toNat_of_nonneg nonneg]

/-! ## Doubles as rational numbers -/

namespace Binary64

def magnitude (x : Binary64) : ℚ := x.mantissa * 2 ^ x.exponent

/-- Whether `2 ^ e` is at most a fraction, as the model asks it. -/
theorem zpow_le_div_iff (pos : 0 < d) (e : Int) :
    (if 0 ≤ e then d * Nat.pow 2 e.toNat ≤ n else d ≤ n * Nat.pow 2 (-e).toNat) ↔
      (2 : ℚ) ^ e ≤ n / d := by
  have positive : (0 : ℚ) < d := by exact_mod_cast pos
  rw [le_div_iff₀ positive]
  by_cases sign : 0 ≤ e
  · have power := cast_pow_toNat 2 sign
    rw [if_pos sign, mul_comm, ← Nat.cast_le (α := ℚ), Nat.cast_mul, power, Nat.cast_ofNat]
  · have power := cast_pow_toNat 2 (show 0 ≤ -e by omega)
    have small : (0 : ℚ) < 2 ^ e := by positivity
    rw [if_neg sign, ← Nat.cast_le (α := ℚ), Nat.cast_mul, power, Nat.cast_ofNat, zpow_neg,
      ← div_eq_mul_inv, le_div_iff₀ small, mul_comm]

theorem floorLog_spec (posN : 0 < n) (posD : 0 < d) :
    (2 : ℚ) ^ floorLog n d ≤ n / d ∧ (n : ℚ) / d < 2 ^ (floorLog n d + 1) := by
  have positive : (0 : ℚ) < d := by exact_mod_cast posD
  have split (i j : Int) : (2 : ℚ) ^ (i + j) = 2 ^ i * 2 ^ j := zpow_add₀ two_ne_zero i j
  have lowN : (2 : ℚ) ^ (Nat.log2 n : Int) ≤ n := by
    rw [zpow_natCast]
    exact_mod_cast Nat.log2_self_le posN.ne'
  have highN : (n : ℚ) < 2 ^ ((Nat.log2 n : Int) + 1) := by
    have : n < 2 ^ (Nat.log2 n + 1) := Nat.lt_log2_self
    exact_mod_cast this
  have lowD : (2 : ℚ) ^ (Nat.log2 d : Int) ≤ d := by
    rw [zpow_natCast]
    exact_mod_cast Nat.log2_self_le posD.ne'
  have highD : (d : ℚ) < 2 ^ ((Nat.log2 d : Int) + 1) := by
    have : d < 2 ^ (Nat.log2 d + 1) := Nat.lt_log2_self
    exact_mod_cast this
  simp only [floorLog]
  generalize (Nat.log2 n : Int) = a at *
  generalize (Nat.log2 d : Int) = b at *
  have upper : (n : ℚ) / d < 2 ^ (a - b + 1) := by
    rw [div_lt_iff₀ positive]
    calc (n : ℚ) < 2 ^ (a + 1) := highN
      _ = 2 ^ (a - b + 1) * 2 ^ b := by rw [← split]; congr 1; omega
      _ ≤ 2 ^ (a - b + 1) * d := by gcongr
  have lower : (2 : ℚ) ^ (a - b - 1) ≤ n / d := by
    rw [le_div_iff₀ positive]
    calc (2 : ℚ) ^ (a - b - 1) * d ≤ 2 ^ (a - b - 1) * 2 ^ (b + 1) := by gcongr
      _ = 2 ^ a := by rw [← split]; congr 1; omega
      _ ≤ n := lowN
  have asked := zpow_le_div_iff (n := n) posD (a - b)
  by_cases fits : (2 : ℚ) ^ (a - b) ≤ n / d
  · have := asked.2 fits
    split_ifs at this ⊢ <;> simp_all
  · have := mt asked.1 fits
    split_ifs at this ⊢ <;> simp_all

theorem floorLog_eq {l : Int} (posN : 0 < n) (posD : 0 < d) (low : (2 : ℚ) ^ l ≤ n / d)
    (high : (n : ℚ) / d < 2 ^ (l + 1)) : floorLog n d = l :=
  zpow_place_unique one_lt_two (floorLog_spec posN posD).1 (floorLog_spec posN posD).2 low high

/-! ## The nearest double -/

variable {x : Binary64} {e : Int}

/-- The mantissa and the exponent of a finite double: a short mantissa at the least exponent, or a
mantissa of full length. -/
theorem mantissa_cases (finite : x.isFinite = true) :
    (x.mantissa < 2 ^ 52 ∧ x.exponent = -1074) ∨
      (2 ^ 52 ≤ x.mantissa ∧ x.mantissa < 2 ^ 53 ∧ -1074 ≤ x.exponent ∧ x.exponent ≤ 971) := by
  have bounded : x.biased.val < 2048 := x.biased.isLt
  have short : x.fraction.val < 2 ^ 52 := x.fraction.isLt
  simp only [isFinite, ne_eq, decide_not, Bool.not_eq_eq_eq_not, Bool.not_true,
    decide_eq_false_iff_not] at finite
  simp only [mantissa, exponent, Nat.pow_eq]
  by_cases subnormal : x.biased.val = 0
  · rw [if_pos subnormal, if_pos subnormal]
    exact .inl ⟨short, rfl⟩
  · rw [if_neg subnormal, if_neg subnormal]
    exact .inr ⟨by omega, by omega, by omega, by omega⟩

theorem eq_of_fields {y : Binary64} (sign : x.negative = y.negative)
    (biased : x.biased.val = y.biased.val) (fraction : x.fraction.val = y.fraction.val) :
    x = y := by
  cases x
  cases y
  rw [mk.injEq]
  exact ⟨sign, Fin.ext biased, Fin.ext fraction⟩

theorem ofMantissa_mantissa (finite : x.isFinite = true) :
    ofMantissa x.negative x.mantissa x.exponent = x := by
  have bounded : x.biased.val < 2048 := x.biased.isLt
  have short : x.fraction.val < 2 ^ 52 := x.fraction.isLt
  simp only [isFinite, ne_eq, decide_not, Bool.not_eq_eq_eq_not, Bool.not_true,
    decide_eq_false_iff_not] at finite
  by_cases subnormal : x.biased.val = 0
  · simp only [mantissa, exponent, ofMantissa, Nat.pow_eq, if_pos subnormal, if_pos short]
    exact eq_of_fields rfl subnormal.symm (Nat.mod_eq_of_lt short)
  · have long : ¬2 ^ 52 + x.fraction.val < 2 ^ 52 := by omega
    have inRange : ¬972 ≤ (x.biased.val : Int) - 1075 := by omega
    simp only [mantissa, exponent, ofMantissa, Nat.pow_eq, if_neg subnormal, if_neg long,
      dif_neg inRange]
    refine eq_of_fields rfl ?_ ?_
    · show ((x.biased.val : Int) - 1075 + 1075).toNat % 2048 = x.biased.val
      omega
    · show (2 ^ 52 + x.fraction.val - 2 ^ 52) % 2 ^ 52 = x.fraction.val
      rw [Nat.add_sub_cancel_left]
      exact Nat.mod_eq_of_lt short

/-- The integer that a fraction is rounded to in units of `2 ^ e`. -/
def mantissaAt (n d : Nat) (e : Int) : Nat :=
  if 0 ≤ e then roundedQuotient n (d * Nat.pow 2 e.toNat)
  else roundedQuotient (n * Nat.pow 2 (-e).toNat) d

theorem mantissaAt_eq (pos : 0 < d) (near : |(n : ℚ) / d / 2 ^ e - k| < 1 / 2) :
    mantissaAt n d e = k := by
  simp only [mantissaAt]
  by_cases sign : 0 ≤ e
  · rw [if_pos sign]
    refine roundedQuotient_eq (Nat.mul_pos pos (Nat.pow_pos (by decide))) ?_
    rwa [Nat.cast_mul, cast_pow_toNat 2 sign, ← div_div]
  · rw [if_neg sign]
    refine roundedQuotient_eq pos ?_
    rwa [Nat.cast_mul, cast_pow_toNat 2 (show 0 ≤ -e by omega), zpow_neg, ← div_eq_mul_inv,
      div_right_comm]

theorem mantissaAt_congr (pos : 0 < d) (pos' : 0 < d') (same : n * d' = n' * d) :
    mantissaAt n d e = mantissaAt n' d' e := by
  simp only [mantissaAt]
  split
  · have power : 0 < Nat.pow 2 e.toNat := Nat.pow_pos (by decide)
    refine roundedQuotient_congr (Nat.mul_pos pos power) (Nat.mul_pos pos' power) ?_
    rw [← Nat.mul_assoc, ← Nat.mul_assoc, same]
  · refine roundedQuotient_congr pos pos' ?_
    rw [Nat.mul_right_comm, same, Nat.mul_right_comm]

theorem ofRatio_congr (negative : Bool) (posN : 0 < n) (posN' : 0 < n') (pos : 0 < d)
    (pos' : 0 < d') (same : n * d' = n' * d) :
    ofRatio negative n d = ofRatio negative n' d' := by
  have quotient : (n : ℚ) / d = n' / d' := by
    rw [div_eq_div_iff (by exact_mod_cast pos.ne') (by exact_mod_cast pos'.ne')]
    exact_mod_cast same
  have place : floorLog n d = floorLog n' d' := by
    refine floorLog_eq posN pos ?_ ?_
    · rw [quotient]
      exact (floorLog_spec posN' pos').1
    · rw [quotient]
      exact (floorLog_spec posN' pos').2
  change (let e := max (-1074) (floorLog n d - 52)
    if mantissaAt n d e = Nat.pow 2 53 then ofMantissa negative (Nat.pow 2 52) (e + 1)
    else ofMantissa negative (mantissaAt n d e) e) = _
  simp only [place, mantissaAt_congr pos pos' same]
  rfl

theorem ofRatio_eq (negative : Bool) (place : max (-1074) (floorLog n d - 52) = e)
    (rounded : mantissaAt n d e = k) :
    ofRatio negative n d =
      if k = 2 ^ 53 then ofMantissa negative (2 ^ 52) (e + 1) else ofMantissa negative k e := by
  subst place rounded
  rfl

/-- **A fraction that is closer to a double than one part in `2 ^ 54` is rounded to it.** -/
theorem ofRatio_near (finite : x.isFinite = true) (posN : 0 < n) (posD : 0 < d)
    (near : 2 ^ 54 * |(n : ℚ) / d - x.magnitude| < x.magnitude) :
    ofRatio x.negative n d = x := by
  have unit : (0 : ℚ) < 2 ^ x.exponent := by positivity
  obtain ⟨u, spelled⟩ : ∃ u : ℚ, (n : ℚ) / d = u * 2 ^ x.exponent :=
    ⟨(n : ℚ) / d / 2 ^ x.exponent, (div_mul_cancel₀ _ unit.ne').symm⟩
  have closeness : 2 ^ 54 * |u - x.mantissa| < x.mantissa := by
    rw [spelled, magnitude, ← sub_mul, abs_mul, abs_of_pos unit, ← mul_assoc] at near
    exact lt_of_mul_lt_mul_right near unit.le
  obtain ⟨above, below⟩ := abs_lt.1 (show |u - x.mantissa| < (x.mantissa : ℚ) / 2 ^ 54 by
    rw [lt_div_iff₀ (by norm_num)]
    linarith)
  have power (i : Nat) : (2 : ℚ) ^ (x.exponent + i) = 2 ^ i * 2 ^ x.exponent := by
    rw [zpow_add₀ two_ne_zero, zpow_natCast, mul_comm]
  -- in the units of the double itself the fraction is rounded to its mantissa
  have same (place : max (-1074) (floorLog n d - 52) = x.exponent) (small : x.mantissa < 2 ^ 53) :
      ofRatio x.negative n d = x := by
    have bound : (x.mantissa : ℚ) < 2 ^ 53 := by exact_mod_cast small
    have rounded : mantissaAt n d x.exponent = x.mantissa := by
      refine mantissaAt_eq posD ?_
      rw [spelled, mul_div_cancel_right₀ u unit.ne', abs_lt]
      constructor <;> linarith
    rw [ofRatio_eq x.negative place rounded, if_neg small.ne]
    exact ofMantissa_mantissa finite
  have low := (floorLog_spec posN posD).1
  rcases mantissa_cases finite with ⟨short, least⟩ | ⟨full, small, enough, _⟩
  · refine same ?_ (by omega)
    have bound : (x.mantissa : ℚ) + 1 ≤ 2 ^ 52 := by exact_mod_cast short
    have upper : (n : ℚ) / d < 2 ^ (x.exponent + (52 : Nat)) := by
      rw [spelled, power]
      gcongr
      linarith
    have : floorLog n d < x.exponent + (52 : Nat) :=
      (zpow_lt_zpow_iff_right₀ one_lt_two).1 (low.trans_lt upper)
    omega
  · have fullQ : (2 : ℚ) ^ 52 ≤ x.mantissa := by exact_mod_cast full
    have smallQ : (x.mantissa : ℚ) + 1 ≤ 2 ^ 53 := by exact_mod_cast small
    rcases le_or_gt ((2 : ℚ) ^ 52) u with inside | outside
    · refine same ?_ small
      have place : floorLog n d = x.exponent + (52 : Nat) := by
        refine floorLog_eq posN posD ?_ ?_
        · rw [spelled, power]
          gcongr
        · rw [spelled, show x.exponent + (52 : Nat) + 1 = x.exponent + (53 : Nat) by omega, power]
          gcongr
          linarith
      omega
    · -- the fraction lies below the power of two that the double is
      have exact : x.mantissa = 2 ^ 52 := by
        have : (x.mantissa : ℚ) < 2 ^ 52 + 1 := by linarith
        have : x.mantissa < 2 ^ 52 + 1 := by exact_mod_cast this
        omega
      have place : floorLog n d = x.exponent + (51 : Nat) := by
        refine floorLog_eq posN posD ?_ ?_
        · rw [spelled, power]
          gcongr
          linarith
        · rw [spelled, show x.exponent + (51 : Nat) + 1 = x.exponent + (52 : Nat) by omega, power]
          gcongr
      by_cases least : x.exponent = -1074
      · exact same (by omega) small
      · have half : (2 : ℚ) ^ (x.exponent - 1) = 2 ^ x.exponent / 2 := by
          rw [zpow_sub_one₀ two_ne_zero, div_eq_mul_inv]
        have rounded : mantissaAt n d (x.exponent - 1) = 2 ^ 53 := by
          refine mantissaAt_eq posD ?_
          have doubled : u * 2 ^ x.exponent / (2 ^ x.exponent / 2) = 2 * u := by
            field_simp
          rw [exact] at above below
          push_cast at above below ⊢
          rw [spelled, half, doubled, abs_lt]
          constructor <;> linarith
        have below : max (-1074) (floorLog n d - 52) = x.exponent - 1 := by omega
        rw [ofRatio_eq x.negative below rounded, if_pos rfl, sub_add_cancel, ← exact]
        exact ofMantissa_mantissa finite

/-! ## Reading decimal digits -/

variable {digits digits' : Nat} {power power' : Int}

/-- The number that digits and a power of ten spell, as a numerator and a denominator. -/
def decimalRatio (digits : Nat) (power : Int) : Nat × Nat :=
  if 0 ≤ power then (digits * Nat.pow 10 power.toNat, 1) else (digits, Nat.pow 10 (-power).toNat)

theorem decimalRatio_pos (pos : 0 < digits) (power : Int) :
    0 < (decimalRatio digits power).1 ∧ 0 < (decimalRatio digits power).2 := by
  simp only [decimalRatio]
  split
  · exact ⟨Nat.mul_pos pos (Nat.pow_pos (by decide)), Nat.one_pos⟩
  · exact ⟨pos, Nat.pow_pos (by decide)⟩

theorem decimalRatio_value (digits : Nat) (power : Int) :
    ((decimalRatio digits power).1 : ℚ) / (decimalRatio digits power).2 =
      digits * 10 ^ power := by
  simp only [decimalRatio]
  by_cases sign : 0 ≤ power
  · rw [if_pos sign, Nat.cast_mul, cast_pow_toNat 10 sign, Nat.cast_one, div_one, Nat.cast_ofNat]
  · rw [if_neg sign, cast_pow_toNat 10 (show 0 ≤ -power by omega), zpow_neg, div_inv_eq_mul,
      Nat.cast_ofNat]

/-- The number of digits before the point, which may be negative. -/
def leading (digits : Nat) (power : Int) : Int := (Nat.toDigits 10 digits).length + power

theorem leading_spec (pos : 0 < digits) (power : Int) :
    (10 : ℚ) ^ (leading digits power - 1) ≤ digits * 10 ^ power ∧
      (digits : ℚ) * 10 ^ power < 10 ^ leading digits power := by
  have unit : (0 : ℚ) < 10 ^ power := by positivity
  have split (i : Int) : (10 : ℚ) ^ (i + power) = 10 ^ i * 10 ^ power :=
    zpow_add₀ (by norm_num) i power
  obtain ⟨low, high⟩ := zpow_le_of_digits pos
  constructor
  · rw [leading, add_sub_right_comm, split]
    gcongr
  · rw [leading, split]
    gcongr

theorem ofDecimal_eq (negative : Bool) (pos : 0 < digits) :
    ofDecimal negative digits power =
      if 310 < leading digits power then infinity negative
      else if leading digits power < -330 then zero negative
      else ofRatio negative (decimalRatio digits power).1 (decimalRatio digits power).2 := by
  rw [ofDecimal, if_neg pos.ne']
  simp only [leading]
  congr 2
  simp only [decimalRatio]
  split <;> rfl

/-- **Reading digits depends on the number that they spell alone.** -/
theorem ofDecimal_congr (negative : Bool) (pos : 0 < digits) (pos' : 0 < digits')
    (same : (digits : ℚ) * 10 ^ power = digits' * 10 ^ power') :
    ofDecimal negative digits power = ofDecimal negative digits' power' := by
  obtain ⟨low, high⟩ := leading_spec pos power
  obtain ⟨low', high'⟩ := leading_spec pos' power'
  have placed : leading digits power = leading digits' power' := by
    rw [same] at low high
    have := zpow_place_unique (by norm_num) low (by rwa [sub_add_cancel]) low'
      (by rwa [sub_add_cancel])
    omega
  obtain ⟨posN, posD⟩ := decimalRatio_pos pos power
  obtain ⟨posN', posD'⟩ := decimalRatio_pos pos' power'
  have quotient := (decimalRatio_value digits power).trans
    (same.trans (decimalRatio_value digits' power').symm)
  rw [div_eq_div_iff (by exact_mod_cast posD.ne') (by exact_mod_cast posD'.ne')] at quotient
  rw [ofDecimal_eq negative pos, ofDecimal_eq negative pos', placed,
    ofRatio_congr negative posN posN' posD posD' (by exact_mod_cast quotient)]

def unsigned (x : Binary64) : Binary64 :=
  { x with negative := false, quiet := fun top some => ⟨rfl, (x.quiet top some).2⟩ }

theorem ofMantissa_unsigned (negative : Bool) (m : Nat) (e : Int) :
    (ofMantissa negative m e).unsigned = ofMantissa false m e := by
  simp only [ofMantissa]
  split_ifs <;> rfl

theorem ofDecimal_unsigned (negative : Bool) (digits : Nat) (power : Int) :
    (ofDecimal negative digits power).unsigned = ofDecimal false digits power := by
  have ratio (n d : Nat) : (ofRatio negative n d).unsigned = ofRatio false n d := by
    simp only [ofRatio, apply_ite unsigned, ofMantissa_unsigned]
  simp only [ofDecimal, apply_ite unsigned, ratio]
  rfl

theorem magnitude_lt (finite : x.isFinite = true) : x.magnitude < 2 ^ (1024 : Int) := by
  have bounds : x.mantissa < 2 ^ 53 ∧ x.exponent ≤ 971 := by
    rcases mantissa_cases finite with ⟨short, least⟩ | ⟨_, small, _, most⟩
    · exact ⟨by omega, by omega⟩
    · exact ⟨small, most⟩
  have small : (x.mantissa : ℚ) < 2 ^ (53 : Int) := by exact_mod_cast bounds.1
  calc x.magnitude < 2 ^ (53 : Int) * 2 ^ x.exponent := by rw [magnitude]; gcongr
    _ ≤ 2 ^ (53 : Int) * 2 ^ (971 : Int) := by gcongr; exacts [one_le_two, bounds.2]
    _ = 2 ^ (1024 : Int) := by rw [← zpow_add₀ two_ne_zero]; rfl

theorem le_magnitude (finite : x.isFinite = true) (positive : 0 < x.magnitude) :
    2 ^ (-1074 : Int) ≤ x.magnitude := by
  have unit : (0 : ℚ) < 2 ^ x.exponent := by positivity
  have some : (1 : ℚ) ≤ x.mantissa := by
    have : (0 : ℚ) < x.mantissa := pos_of_mul_pos_left positive unit.le
    exact_mod_cast this
  have least : -1074 ≤ x.exponent := by
    rcases mantissa_cases finite with ⟨_, least⟩ | ⟨_, _, least, _⟩ <;> omega
  calc (2 : ℚ) ^ (-1074 : Int) ≤ 1 * 2 ^ x.exponent := by
        rw [one_mul]
        exact zpow_le_zpow_right₀ one_le_two least
    _ ≤ x.magnitude := by rw [magnitude]; gcongr

theorem largest_lt : (2 : ℚ) * 2 ^ (1024 : Int) < 10 ^ (309 : Int) := by
  have : 2 * 2 ^ 1024 < 10 ^ 309 := by decide +kernel
  exact_mod_cast this

theorem lt_smallest : (10 : ℚ) ^ (-324 : Int) < 2 ^ (-1074 : Int) / 2 := by
  have : 2 * 2 ^ 1074 < 10 ^ 324 := by decide +kernel
  have : (2 * 2 ^ 1074 : ℚ) < 10 ^ 324 := by exact_mod_cast this
  rw [zpow_neg, zpow_neg, zpow_ofNat, zpow_ofNat, inv_eq_one_div, inv_eq_one_div, div_div,
    one_div_lt_one_div (by positivity) (by positivity), mul_comm]
  exact this

/-- **Digits that spell a number closer to a double than one part in `2 ^ 54` read as it.** -/
theorem ofDecimal_near (finite : x.isFinite = true) (pos : 0 < digits)
    (near : 2 ^ 54 * |(digits : ℚ) * 10 ^ power - x.magnitude| < x.magnitude) :
    ofDecimal x.negative digits power = x := by
  have positive : 0 < x.magnitude := lt_of_le_of_lt (by positivity) near
  obtain ⟨above, below⟩ := abs_lt.1
    (show |(digits : ℚ) * 10 ^ power - x.magnitude| < x.magnitude / 2 ^ 54 by
      rw [lt_div_iff₀ (by norm_num)]
      linarith)
  obtain ⟨low, high⟩ := leading_spec pos power
  have base : (1 : ℚ) < 10 := by norm_num
  have notHuge : leading digits power - 1 < 309 := by
    refine (zpow_lt_zpow_iff_right₀ base).1 (low.trans_lt ?_)
    calc (digits : ℚ) * 10 ^ power < 2 * x.magnitude := by linarith
      _ ≤ 2 * 2 ^ (1024 : Int) := by gcongr; exact (magnitude_lt finite).le
      _ < 10 ^ (309 : Int) := largest_lt
  have notTiny : -324 < leading digits power := by
    refine (zpow_lt_zpow_iff_right₀ base).1 (lt_trans ?_ high)
    calc (10 : ℚ) ^ (-324 : Int) < 2 ^ (-1074 : Int) / 2 := lt_smallest
      _ ≤ x.magnitude / 2 := by gcongr; exact le_magnitude finite positive
      _ < digits * 10 ^ power := by linarith
  obtain ⟨posN, posD⟩ := decimalRatio_pos pos power
  rw [ofDecimal_eq x.negative pos, if_neg (by omega), if_neg (by omega)]
  refine ofRatio_near finite posN posD ?_
  rwa [decimalRatio_value]

end Binary64

end AgentFlow
