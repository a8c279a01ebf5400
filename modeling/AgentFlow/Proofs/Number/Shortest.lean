import AgentFlow.Number.Shortest
import AgentFlow.Proofs.Number.Rounding
import Mathlib.Data.Nat.Cast.Field
import Mathlib.Data.Nat.Cast.Order.Field

/-!
# Shortest digits read back

The digits that a double is written with read back as this double.  Fewer than seventeen are taken
only after they have been read back, and seventeen suffice: they are off by at most one part in `2 *
10 ^ 16`, which is less than one part in `2 ^ 54`.
-/

namespace AgentFlow

open List

theorem roundedQuotient_neighbour (n d : Nat) :
    roundedQuotient n d = n / d ∨ roundedQuotient n d = n / d + 1 := by
  simp only [roundedQuotient]
  split_ifs <;> omega

namespace Binary64

variable {x : Binary64}

/-! ## The fraction of a double -/

theorem ratio_pos (x : Binary64) : 0 < x.ratio.2 := by
  simp only [ratio]
  split
  · exact Nat.one_pos
  · exact Nat.pow_pos (by decide)

theorem ratio_value (x : Binary64) : (x.ratio.1 : ℚ) / x.ratio.2 = x.magnitude := by
  simp only [ratio, magnitude]
  by_cases sign : 0 ≤ x.exponent
  · rw [if_pos sign, Nat.cast_mul, cast_pow_toNat 2 sign, Nat.cast_one, div_one, Nat.cast_ofNat]
  · rw [if_neg sign, cast_pow_toNat 2 (show 0 ≤ -x.exponent by omega), zpow_neg, div_inv_eq_mul,
      Nat.cast_ofNat]

theorem magnitude_pos (nonzero : x.isZero = false) : 0 < x.magnitude := by
  have some : 0 < x.mantissa := by
    simp only [isZero, decide_eq_false_iff_not, not_and] at nonzero
    simp only [mantissa]
    split
    · next subnormal => exact Nat.pos_of_ne_zero (nonzero subnormal)
    · exact Nat.add_pos_left (Nat.pow_pos (by decide)) _
  rw [magnitude]
  positivity

/-- A fraction that is one at least lies where the number of digits of its whole part says. -/
theorem quotient_place {n d : Nat} (pos : 0 < d) (whole : d ≤ n) :
    (10 : ℚ) ^ (((Nat.toDigits 10 (n / d)).length : Int) - 1) ≤ n / d ∧
      (n : ℚ) / d < 10 ^ ((Nat.toDigits 10 (n / d)).length : Int) := by
  have positive : (0 : ℚ) < d := by exact_mod_cast pos
  obtain ⟨low, high⟩ := zpow_le_of_digits (Nat.div_pos whole pos)
  constructor
  · exact low.trans Nat.cast_div_le
  · rw [zpow_natCast] at high ⊢
    have next : n / d + 1 ≤ 10 ^ (Nat.toDigits 10 (n / d)).length := by exact_mod_cast high
    have beyond : n < d * (n / d + 1) := Nat.lt_mul_div_succ n pos
    calc (n : ℚ) / d < ((n / d + 1 : Nat) : ℚ) := by
          rw [div_lt_iff₀ positive, mul_comm]
          exact_mod_cast beyond
      _ ≤ 10 ^ (Nat.toDigits 10 (n / d)).length := by exact_mod_cast next

theorem place_of_shifted {s : Nat} (large : 1 ≤ x.magnitude * 10 ^ (s : Int)) :
    (10 : ℚ) ^ (((Nat.toDigits 10 (x.ratio.1 * Nat.pow 10 s / x.ratio.2)).length : Int) - s - 1) ≤
        x.magnitude ∧
      x.magnitude <
        10 ^ (((Nat.toDigits 10 (x.ratio.1 * Nat.pow 10 s / x.ratio.2)).length : Int) - s) := by
  have unit : (0 : ℚ) < 10 ^ (s : Int) := by positivity
  have positive : (0 : ℚ) < x.ratio.2 := by exact_mod_cast x.ratio_pos
  have shifted : ((x.ratio.1 * Nat.pow 10 s : Nat) : ℚ) / x.ratio.2 =
      x.magnitude * 10 ^ (s : Int) := by
    rw [Nat.cast_mul, mul_div_right_comm, ratio_value, Nat.pow_eq, Nat.cast_pow,
      Nat.cast_ofNat, zpow_natCast]
  have whole : x.ratio.2 ≤ x.ratio.1 * Nat.pow 10 s := by
    rw [← shifted, le_div_iff₀ positive, one_mul] at large
    exact_mod_cast large
  obtain ⟨low, high⟩ := quotient_place x.ratio_pos whole
  rw [shifted] at low high
  constructor
  · rw [sub_right_comm, zpow_sub₀ (by norm_num), div_le_iff₀ unit]
    exact low
  · rw [zpow_sub₀ (by norm_num), lt_div_iff₀ unit]
    exact high

theorem decimalPoint_eq (x : Binary64) {s : Nat} (shift : 400 = s) :
    x.decimalPoint =
      ((Nat.toDigits 10 (x.ratio.1 * Nat.pow 10 s / x.ratio.2)).length : Int) - s := by
  have cast : (400 : Int) = s := by omega
  rw [decimalPoint, cast, shift]

theorem decimalPoint_spec (finite : x.isFinite = true) (nonzero : x.isZero = false) :
    (10 : ℚ) ^ (x.decimalPoint - 1) ≤ x.magnitude ∧ x.magnitude < 10 ^ x.decimalPoint := by
  have least : (10 : ℚ) ^ (-324 : Int) ≤ x.magnitude :=
    calc (10 : ℚ) ^ (-324 : Int) ≤ 2 ^ (-1074 : Int) / 2 := lt_smallest.le
      _ ≤ 2 ^ (-1074 : Int) := half_le_self (by positivity)
      _ ≤ x.magnitude := le_magnitude finite (magnitude_pos nonzero)
  obtain ⟨s, shift⟩ : ∃ s, 400 = s := ⟨_, rfl⟩
  have large : 1 ≤ x.magnitude * 10 ^ (s : Int) :=
    calc (1 : ℚ) ≤ 10 ^ (-324 : Int) * 10 ^ (s : Int) := by
          rw [← zpow_add₀ (by norm_num)]
          exact one_le_zpow₀ (by norm_num) (by omega)
      _ ≤ x.magnitude * 10 ^ (s : Int) := by gcongr
  rw [x.decimalPoint_eq shift]
  exact place_of_shifted large

/-! ## Seventeen digits suffice -/

/-- The magnitude in units of `10 ^ power`, as a numerator and a denominator. -/
def unitRatio (x : Binary64) (power : Int) : Nat × Nat :=
  if 0 ≤ power then (x.ratio.1, x.ratio.2 * Nat.pow 10 power.toNat)
  else (x.ratio.1 * Nat.pow 10 (-power).toNat, x.ratio.2)

theorem unitRatio_pos (x : Binary64) (power : Int) : 0 < (x.unitRatio power).2 := by
  simp only [unitRatio]
  split
  · exact Nat.mul_pos x.ratio_pos (Nat.pow_pos (by decide))
  · exact x.ratio_pos

theorem unitRatio_value (x : Binary64) (power : Int) :
    ((x.unitRatio power).1 : ℚ) / (x.unitRatio power).2 = x.magnitude / 10 ^ power := by
  simp only [unitRatio]
  by_cases sign : 0 ≤ power
  · rw [if_pos sign, Nat.cast_mul, cast_pow_toNat 10 sign, ← div_div, ratio_value, Nat.cast_ofNat]
  · rw [if_neg sign, Nat.cast_mul, cast_pow_toNat 10 (show 0 ≤ -power by omega), zpow_neg,
      ← div_eq_mul_inv, div_right_comm, ratio_value, Nat.cast_ofNat]

/-- Whether digits at a power of ten read back as a double. -/
def readsBack (x : Binary64) (power : Int) (digits : Nat) : Bool :=
  ofDecimal x.negative digits power = x

theorem neighbour?_eq (x : Binary64) (point : Int) (count : Nat) :
    x.neighbour? point count =
      (let power := point - count
      let below := (x.unitRatio power).1 / (x.unitRatio power).2
      if (x.unitRatio power).1 % (x.unitRatio power).2 = 0 then
        if x.readsBack power below then some below else none
      else
        match x.readsBack power below, x.readsBack power (below + 1) with
        | true, true => some (roundedQuotient (x.unitRatio power).1 (x.unitRatio power).2)
        | true, false => some below
        | false, true => some (below + 1)
        | false, false => none) := by
  simp only [neighbour?, unitRatio]
  split <;> rfl

theorem neighbour?_readsBack {point : Int} {count digits : Nat}
    (found : x.neighbour? point count = some digits) :
    ofDecimal x.negative digits (point - count) = x := by
  have back (k : Nat) (reads : x.readsBack (point - count) k = true) :
      ofDecimal x.negative k (point - count) = x := of_decide_eq_true reads
  rw [neighbour?_eq] at found
  simp only at found
  split at found
  · split at found
    · next reads => exact Option.some.inj found ▸ back _ reads
    · cases found
  · split at found
    · next low high =>
        rcases roundedQuotient_neighbour (x.unitRatio (point - count)).1
          (x.unitRatio (point - count)).2 with same | same
        · exact Option.some.inj found ▸ same ▸ back _ low
        · exact Option.some.inj found ▸ same ▸ back _ high
    · next low _ => exact Option.some.inj found ▸ back _ low
    · next high => exact Option.some.inj found ▸ back _ high
    · cases found

theorem readsBack_of_near (finite : x.isFinite = true) (nonzero : x.isZero = false) {k : Nat}
    (pos : 0 < k) (near : |(k : ℚ) - x.magnitude / 10 ^ (x.decimalPoint - 17)| ≤ 1 / 2) :
    x.readsBack (x.decimalPoint - 17) k = true := by
  have unit : (0 : ℚ) < 10 ^ (x.decimalPoint - 17) := by positivity
  have positive := magnitude_pos nonzero
  have fine : (10 : ℚ) ^ (x.decimalPoint - 17) * 10 ^ 16 ≤ x.magnitude := by
    refine le_trans (le_of_eq ?_) (decimalPoint_spec finite nonzero).1
    rw [← zpow_natCast, ← zpow_add₀ (by norm_num)]
    congr 1
    omega
  refine decide_eq_true (ofDecimal_near finite pos ?_)
  have spread : (k : ℚ) * 10 ^ (x.decimalPoint - 17) - x.magnitude =
      (k - x.magnitude / 10 ^ (x.decimalPoint - 17)) * 10 ^ (x.decimalPoint - 17) := by
    field_simp
  rw [spread, abs_mul, abs_of_pos unit]
  calc 2 ^ 54 * (|(k : ℚ) - x.magnitude / 10 ^ (x.decimalPoint - 17)| *
        10 ^ (x.decimalPoint - 17)) ≤ 2 ^ 54 * (1 / 2 * 10 ^ (x.decimalPoint - 17)) := by gcongr
    _ < 10 ^ (x.decimalPoint - 17) * 10 ^ 16 := by linarith
    _ ≤ x.magnitude := fine

/-- **Seventeen digits suffice.** -/
theorem neighbour?_seventeen (finite : x.isFinite = true) (nonzero : x.isZero = false) :
    (x.neighbour? x.decimalPoint 17).isSome = true := by
  have unit : (0 : ℚ) < 10 ^ (x.decimalPoint - 17) := by positivity
  have positive : (0 : ℚ) < (x.unitRatio (x.decimalPoint - 17)).2 := by
    exact_mod_cast x.unitRatio_pos _
  have value := x.unitRatio_value (x.decimalPoint - 17)
  have large : (1 : ℚ) ≤ x.magnitude / 10 ^ (x.decimalPoint - 17) := by
    rw [le_div_iff₀ unit, one_mul]
    refine le_trans ?_ (decimalPoint_spec finite nonzero).1
    exact zpow_le_zpow_right₀ (by norm_num) (by omega)
  have back (k : Nat) := readsBack_of_near finite nonzero (k := k)
  rw [neighbour?_eq]
  simp only [Nat.cast_ofNat]
  generalize x.decimalPoint - 17 = power at *
  generalize (x.unitRatio power).1 = top at *
  have pos : 0 < (x.unitRatio power).2 := x.unitRatio_pos power
  generalize (x.unitRatio power).2 = bottom at *
  rw [← value] at large back
  have some : 0 < top / bottom := by
    rw [le_div_iff₀ positive, one_mul] at large
    exact Nat.div_pos (by exact_mod_cast large) pos
  have low : ((top / bottom : Nat) : ℚ) ≤ (top : ℚ) / bottom := Nat.cast_div_le
  have high : (top : ℚ) / bottom < (top / bottom : Nat) + 1 := by
    rw [div_lt_iff₀ positive, mul_comm]
    exact_mod_cast Nat.lt_mul_div_succ top pos
  by_cases whole : top % bottom = 0
  · have exact : ((top / bottom : Nat) : ℚ) = (top : ℚ) / bottom := by
      rw [Nat.cast_div (Nat.dvd_of_mod_eq_zero whole) positive.ne']
    rw [if_pos whole, if_pos (back _ some (by rw [exact, sub_self, abs_zero]; norm_num))]
    rfl
  · rw [if_neg whole]
    by_cases nearer : (top : ℚ) / bottom - (top / bottom : Nat) ≤ 1 / 2
    · rw [back _ some (by rw [abs_sub_comm, abs_of_nonneg (by linarith)]; exact nearer)]
      cases x.readsBack power (top / bottom + 1) <;> rfl
    · rw [back (top / bottom + 1) (Nat.succ_pos _) (by
        push_cast
        rw [abs_of_nonneg (by linarith)]
        linarith)]
      cases x.readsBack power (top / bottom) <;> rfl

/-! ## The digits that are written -/

/-- Digits without the zeros at their end. -/
def withoutZeros (chars : List Char) : List Char := (chars.reverse.dropWhile (· == '0')).reverse

theorem eq_append_zeros (chars : List Char) :
    ∃ count, chars = withoutZeros chars ++ List.replicate count '0' := by
  have zeros : chars.reverse.takeWhile (· == '0') =
      List.replicate (chars.reverse.takeWhile (· == '0')).length '0' :=
    eq_replicate_of_mem fun c member => by
      simpa using all_eq_true.1 all_takeWhile c member
  refine ⟨(chars.reverse.takeWhile (· == '0')).length, reverse_inj.1 ?_⟩
  rw [reverse_append, withoutZeros, reverse_reverse, reverse_replicate, ← zeros,
    takeWhile_append_dropWhile]

/-- Digits are found, they read back, and they are written without the zeros at their end. -/
theorem exists_digits (finite : x.isFinite = true) (nonzero : x.isZero = false) :
    ∃ digits count, ofDecimal x.negative digits (x.decimalPoint - count) = x ∧
      x.shortestDigits = (withoutZeros (Nat.toDigits 10 digits),
        x.decimalPoint + ((Nat.toDigits 10 digits).length - count)) := by
  have last : 16 ∈ List.range 17 := mem_range.2 (by omega)
  obtain ⟨⟨digits, count⟩, found⟩ : ∃ pair, ((List.range 17).findSome? fun i =>
      (x.neighbour? x.decimalPoint (i + 1)).map fun digits => (digits, i + 1)) = some pair := by
    refine Option.isSome_iff_exists.1 (findSome?_isSome_iff.2 ⟨16, last, ?_⟩)
    rw [Option.isSome_map]
    exact neighbour?_seventeen finite nonzero
  refine ⟨digits, count, ?_, ?_⟩
  · obtain ⟨i, _, here⟩ := exists_of_findSome?_eq_some found
    obtain ⟨k, next, same⟩ := Option.map_eq_some_iff.1 here
    cases same
    exact neighbour?_readsBack next
  · -- opened as a function, since its value at `x` would be computed to compare it
    have opened : shortestDigits = shortestDigits := rfl
    conv at opened => rhs; delta shortestDigits
    rw [opened]
    simp only [found, withoutZeros]

theorem digits_pos {digits : Nat} {power : Int} (nonzero : x.isZero = false)
    (back : ofDecimal x.negative digits power = x) : 0 < digits := by
  refine Nat.pos_of_ne_zero fun none => ?_
  rw [none, ofDecimal, if_pos rfl] at back
  rw [← back] at nonzero
  simp [zero, isZero] at nonzero

/-- **The digits that a double is written with read back as it.** -/
theorem shortestDigits_spec (finite : x.isFinite = true) (nonzero : x.isZero = false) :
    (∀ c ∈ x.shortestDigits.1, c.isDigit = true) ∧
      0 < Nat.ofDigitChars 10 x.shortestDigits.1 0 ∧
      ofDecimal x.negative (Nat.ofDigitChars 10 x.shortestDigits.1 0)
        (x.shortestDigits.2 - x.shortestDigits.1.length) = x := by
  obtain ⟨digits, count, back, written⟩ := exists_digits finite nonzero
  have some := digits_pos nonzero back
  have read : Nat.ofDigitChars 10 (Nat.toDigits 10 digits) 0 = digits :=
    Nat.ofDigitChars_ten_toDigits
  have areDigits : ∀ c ∈ Nat.toDigits 10 digits, c.isDigit = true := fun c member =>
    Nat.isDigit_of_mem_toDigits (b := 10) (by decide) (by decide) member
  obtain ⟨zeros, split⟩ := eq_append_zeros (Nat.toDigits 10 digits)
  rw [written]
  generalize Nat.toDigits 10 digits = chars at *
  generalize withoutZeros chars = kept at *
  subst split
  have value : 10 ^ zeros * Nat.ofDigitChars 10 kept 0 = digits := by
    rwa [Nat.ofDigitChars_append, Nat.ofDigitChars_replicate_zero] at read
  have some' : 0 < Nat.ofDigitChars 10 kept 0 := Nat.pos_of_ne_zero fun none => by
    rw [none, Nat.mul_zero] at value
    omega
  refine ⟨fun c member => areDigits c (mem_append_left _ member), some', ?_⟩
  refine (ofDecimal_congr x.negative some' some ?_).trans back
  have exponent : x.decimalPoint + (((kept ++ List.replicate zeros '0').length : Int) - count) -
      kept.length = (zeros : Int) + (x.decimalPoint - count) := by
    rw [length_append, length_replicate]
    omega
  rw [exponent, zpow_add₀ (by norm_num), zpow_natCast, ← mul_assoc, mul_comm _ ((10 : ℚ) ^ zeros)]
  congr 1
  exact_mod_cast value

end Binary64

end AgentFlow
