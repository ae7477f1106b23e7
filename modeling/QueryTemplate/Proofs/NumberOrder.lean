import Mathlib
import QueryTemplate.Proofs.Rounding

/-! The numbers of the format as rational numbers, in their order, and rounding as a choice among
them. A rational number is rounded to a number if no other is nearer, and none with an odd
significand if two are equally near. As the significands of neighbours are odd and even in turn,
there is one such number at most. -/

set_option autoImplicit false

namespace QueryTemplate

namespace Binary64

/-! ## Rational values -/

/-- The absolute value. An infinity counts as the power of two that would follow the greatest
finite number. -/
def size (x : Binary64) : ℚ := x.numerator / x.denominator

/-- A rational number with the sign of a number. -/
def signed (negative : Bool) (rational : ℚ) : ℚ := if negative then -rational else rational

def value (x : Binary64) : ℚ := signed x.isNegative x.size

/-- Rounding to nearest, ties to even, in the way of the format: no number is nearer to the
rational number, and if another one is as near, the significand is even. What is nearer to an
infinity than to all finite numbers is rounded to no finite number. -/
structure Rounds (x : Binary64) (rational : ℚ) : Prop where
  nearest : ∀ y : Binary64, y.isNaN = false → |x.value - rational| ≤ |y.value - rational|
  even : ∀ y : Binary64, y.isNaN = false → y.value ≠ x.value →
    |y.value - rational| = |x.value - rational| → x.significand % 2 = 0

theorem zpow_eq_div (base : ℚ) (exponent : ℤ) :
    base ^ exponent = base ^ exponent.toNat / base ^ (-exponent).toNat := by
  rcases Int.le_total 0 exponent with nonnegative | nonpositive
  · obtain ⟨n, rfl⟩ := Int.eq_ofNat_of_zero_le nonnegative
    simp
  · obtain ⟨n, equal⟩ := Int.eq_ofNat_of_zero_le (Int.neg_nonneg.mpr nonpositive)
    obtain rfl : exponent = -(n : ℤ) := by omega
    simp

theorem two_zpow_pos (exponent : ℤ) : (0 : ℚ) < 2 ^ exponent := zpow_pos two_pos exponent

theorem two_zpow_eq_mul {unit exponent : ℤ} (above : unit ≤ exponent) :
    (2 : ℚ) ^ exponent = (2 ^ (exponent - unit).toNat : ℕ) * 2 ^ unit := by
  obtain ⟨steps, equal⟩ := Int.eq_ofNat_of_zero_le (Int.sub_nonneg.mpr above)
  obtain rfl : exponent = steps + unit := by omega
  simp [zpow_add₀]

section Fields

variable {x y : Binary64}

theorem size_eq (x : Binary64) : x.size = x.significand * 2 ^ x.exponent := by
  rw [zpow_eq_div, size, numerator, denominator]
  push_cast [Nat.pow_eq]
  ring

/-- A magnitude is made of an exponent and a significand, of which the leading bit is hidden unless
the exponent is the least one. -/
theorem magnitude_eq (x : Binary64) :
    (x.magnitude : ℤ) = hiddenBit * (x.exponent + 1074) + x.significand ∧
      -1074 ≤ x.exponent ∧ x.significand < 2 * hiddenBit ∧
      (x.exponent = -1074 ∨ hiddenBit ≤ x.significand) := by
  have parts := Nat.div_add_mod x.magnitude hiddenBit
  have fraction : x.magnitude % hiddenBit < hiddenBit := Nat.mod_lt _ (by decide)
  unfold significand exponent
  unfold hiddenBit at *
  split <;> omega

theorem significand_mod_two (x : Binary64) : x.significand % 2 = x.magnitude % 2 := by
  have parts := x.magnitude_eq
  unfold hiddenBit at parts
  omega

theorem size_nonneg (x : Binary64) : 0 ≤ x.size := by
  rw [size_eq]
  positivity

theorem abs_signed (negative : Bool) (rational : ℚ) : |signed negative rational| = |rational| := by
  cases negative
  · rfl
  · exact abs_neg rational

theorem abs_signed_sub (negative : Bool) (first second : ℚ) :
    |signed negative first - signed negative second| = |first - second| := by
  cases negative
  · rfl
  · simp [signed, neg_add_eq_sub, abs_sub_comm]

theorem abs_value (x : Binary64) : |x.value| = x.size :=
  (abs_signed x.isNegative x.size).trans (abs_of_nonneg x.size_nonneg)

theorem value_eq_zero_iff : x.value = 0 ↔ x.size = 0 := by
  rw [← abs_value, abs_eq_zero]

theorem abs_size_sub_le (x : Binary64) (negative : Bool) {rational : ℚ}
    (nonnegative : 0 ≤ rational) : |x.size - rational| ≤ |x.value - signed negative rational| := by
  have reverse := abs_abs_sub_abs_le x.value (signed negative rational)
  rwa [abs_value, abs_signed, abs_of_nonneg nonnegative] at reverse

/-- Different numbers of one size are equally near to zero alone. -/
theorem eq_zero_of_equally_near {rational : ℚ} (sizes : y.size = x.size)
    (different : y.value ≠ x.value)
    (equal : |y.value - signed x.isNegative rational| = |x.value - signed x.isNegative rational|) :
    rational = 0 := by
  have negated : y.value = -x.value :=
    (abs_eq_abs.mp (y.abs_value.trans (sizes.trans x.abs_value.symm))).resolve_left different
  have opposite : y.value = signed x.isNegative (-x.size) := by
    rw [negated, value]
    cases x.isNegative <;> rfl
  have nonzero : x.size ≠ 0 := fun none => different <|
    (value_eq_zero_iff.mpr (sizes.trans none)).trans (value_eq_zero_iff.mpr none).symm
  rw [opposite, value, abs_signed_sub, abs_signed_sub] at equal
  rcases abs_eq_abs.mp equal with none | none
  · exact absurd (by linarith) nonzero
  · linarith

theorem rounds_value (x : Binary64) : x.Rounds x.value where
  nearest y _ := by simp
  even y _ different equal := by
    simp only [sub_self, abs_zero, abs_eq_zero, sub_eq_zero] at equal
    exact absurd equal different

/-! ## Magnitudes that count units -/

/-- Some number of units of a power of two, few enough for a significand, or the first number of
the next unit. -/
structure IsCount (unit : ℤ) (count : ℕ) : Prop where
  least : -1074 ≤ unit
  normal : unit = -1074 ∨ hiddenBit ≤ count
  bounded : count ≤ 2 * hiddenBit

private theorem IsCount.eq_iff_of_le {unit other : ℤ} {count number : ℕ}
    (counted : IsCount unit count) (also : IsCount other number) (below : unit ≤ other) :
    (count : ℚ) * 2 ^ unit = number * 2 ^ other ↔
      hiddenBit * (unit + 1074) + count = hiddenBit * (other + 1074) + number := by
  have scaled : (count : ℚ) * 2 ^ unit = number * 2 ^ other ↔
      count = number * 2 ^ (other - unit).toNat := by
    rw [two_zpow_eq_mul below, ← mul_assoc, mul_left_inj' (two_zpow_pos unit).ne']
    exact_mod_cast Iff.rfl
  have least := counted.least
  have normal := also.normal
  have bounded := counted.bounded
  rw [scaled]
  unfold hiddenBit at *
  -- The larger unit is the same, or twice as large at the carry, and never larger than that.
  obtain steps | steps | steps : (other - unit).toNat = 0 ∨ (other - unit).toNat = 1 ∨
      2 ≤ (other - unit).toNat := by omega
  · simp only [steps, pow_zero, mul_one]
    omega
  · simp only [steps, pow_one]
    omega
  · have four : number * 4 ≤ number * 2 ^ (other - unit).toNat :=
      Nat.mul_le_mul_left number (Nat.pow_le_pow_right two_pos steps)
    omega

/-- Counts of one number are at one place, in whatever units they are. -/
theorem IsCount.eq_iff {unit other : ℤ} {count number : ℕ} (counted : IsCount unit count)
    (also : IsCount other number) :
    (count : ℚ) * 2 ^ unit = number * 2 ^ other ↔
      hiddenBit * (unit + 1074) + count = hiddenBit * (other + 1074) + number := by
  rcases Int.le_total unit other with below | above
  · exact counted.eq_iff_of_le also below
  · exact eq_comm.trans ((also.eq_iff_of_le counted above).trans eq_comm)

theorem isCount_significand (x : Binary64) : IsCount x.exponent x.significand := by
  obtain ⟨_, least, bounded, normal⟩ := x.magnitude_eq
  exact ⟨least, normal, bounded.le⟩

theorem size_eq_iff {unit : ℤ} {count : ℕ} (counted : IsCount unit count) :
    x.size = count * 2 ^ unit ↔ (x.magnitude : ℤ) = hiddenBit * (unit + 1074) + count := by
  rw [size_eq, x.magnitude_eq.1]
  exact x.isCount_significand.eq_iff counted

theorem size_eq_size_iff : x.size = y.size ↔ x.magnitude = y.magnitude := by
  rw [y.size_eq, size_eq_iff y.isCount_significand, ← y.magnitude_eq.1]
  exact_mod_cast Iff.rfl

theorem size_eq_zero_iff : x.size = 0 ↔ x.magnitude = 0 := by
  have least : IsCount (-1074) 0 := ⟨le_rfl, .inl rfl, Nat.zero_le _⟩
  simpa using size_eq_iff (x := x) least

theorem size_lt_size_of_magnitude_lt (less : x.magnitude < y.magnitude) : x.size < y.size := by
  obtain ⟨place, least, bounded, normal⟩ := x.magnitude_eq
  obtain ⟨otherPlace, otherLeast, otherBounded, otherNormal⟩ := y.magnitude_eq
  rw [x.size_eq, y.size_eq]
  rcases lt_trichotomy x.exponent y.exponent with below | same | above
  · have full : hiddenBit ≤ y.significand := by
      unfold hiddenBit at *
      omega
    calc (x.significand : ℚ) * 2 ^ x.exponent < (2 * hiddenBit : ℕ) * 2 ^ x.exponent :=
        mul_lt_mul_of_pos_right (by exact_mod_cast bounded) (two_zpow_pos _)
      _ = hiddenBit * 2 ^ (x.exponent + 1) := by
        rw [zpow_add_one₀ two_ne_zero]
        push_cast
        ring
      _ ≤ y.significand * 2 ^ y.exponent :=
        mul_le_mul (by exact_mod_cast full) (zpow_le_zpow_right₀ one_le_two below)
          (two_zpow_pos _).le (Nat.cast_nonneg _)
  · rw [same] at place ⊢
    have fewer : x.significand < y.significand := by omega
    exact mul_lt_mul_of_pos_right (by exact_mod_cast fewer) (two_zpow_pos _)
  · unfold hiddenBit at *
    omega

theorem size_lt_size_iff : x.size < y.size ↔ x.magnitude < y.magnitude := by
  refine ⟨fun less => ?_, size_lt_size_of_magnitude_lt⟩
  by_contra notLess
  rcases Nat.lt_or_eq_of_le (Nat.not_lt.mp notLess) with greater | same
  · exact less.not_gt (size_lt_size_of_magnitude_lt greater)
  · exact less.ne' (size_eq_size_iff.mpr same)

/-- The place among all numbers in their order: the magnitude with the sign. -/
def place (x : Binary64) : ℤ := if x.isNegative then -(x.magnitude : ℤ) else x.magnitude

theorem value_lt_value_iff : x.value < y.value ↔ x.place < y.place := by
  have size := x.size_nonneg
  have otherSize := y.size_nonneg
  unfold value place signed
  cases x.isNegative <;> cases y.isNegative <;>
    simp only [Bool.false_eq_true, if_false, if_true, neg_lt_neg_iff, Nat.cast_lt,
      size_lt_size_iff]
  case false.true => constructor <;> intro less <;> exfalso <;> [linarith; omega]
  case true.false =>
    rw [← not_iff_not, not_lt, not_lt]
    have zeros := and_congr (size_eq_zero_iff (x := x)) (size_eq_zero_iff (x := y))
    constructor
    · intro le
      have := zeros.mp ⟨by linarith, by linarith⟩
      omega
    · intro le
      have := zeros.mpr ⟨by omega, by omega⟩
      linarith

theorem place_emod_two (x : Binary64) : x.place % 2 = (x.significand % 2 : ℕ) := by
  have parity := x.significand_mod_two
  unfold place
  split <;> omega

theorem natAbs_place_le (x : Binary64) (numeral : x.isNaN = false) :
    x.place.natAbs ≤ infiniteMagnitude := by
  simp only [isNaN, decide_eq_false_iff_not] at numeral
  unfold place
  split <;> omega

theorem exists_place {position : ℤ} (bounded : position.natAbs ≤ infiniteMagnitude) :
    ∃ z : Binary64, z.isNaN = false ∧ z.place = position := by
  have small : position.natAbs < signBit := bounded.trans_lt (by decide)
  refine ⟨ofMagnitude (decide (position < 0)) position.natAbs, ?_, ?_⟩
  · simpa [isNaN, magnitude_ofMagnitude small] using bounded
  · simp only [place, magnitude_ofMagnitude small, isNegative_ofMagnitude small, decide_eq_true_eq]
    omega

private theorem Rounds.not_value_lt {rational : ℚ} (first : x.Rounds rational)
    (second : y.Rounds rational) (numeral : x.isNaN = false) (also : y.isNaN = false) :
    ¬ x.value < y.value := by
  intro less
  have equal := le_antisymm (first.nearest y also) (second.nearest x numeral)
  have places := value_lt_value_iff.mp less
  -- There is no place between the two, so one of the magnitudes is odd.
  have adjacent : y.place ≤ x.place + 1 := by
    by_contra apart
    have bounded := x.natAbs_place_le numeral
    have alsoBounded := y.natAbs_place_le also
    obtain ⟨z, between, position⟩ : ∃ z : Binary64, z.isNaN = false ∧ z.place = x.place + 1 :=
      exists_place (by omega)
    have above : x.value < z.value := value_lt_value_iff.mpr (by omega)
    have below : z.value < y.value := value_lt_value_iff.mpr (by omega)
    refine (first.nearest z between).not_gt (abs_lt.mpr ⟨?_, ?_⟩)
    · exact (neg_abs_le _).trans_lt (sub_lt_sub_right above rational)
    · exact (sub_lt_sub_right below rational).trans_le ((le_abs_self _).trans equal.ge)
  have even := first.even y also less.ne' equal.symm
  have alsoEven := second.even x numeral less.ne equal
  have parity := x.place_emod_two
  have alsoParity := y.place_emod_two
  omega

/-- A rational number is rounded to one number at most, but for the sign of zero. -/
theorem Rounds.value_eq {rational : ℚ} (first : x.Rounds rational) (second : y.Rounds rational)
    (numeral : x.isNaN = false) (also : y.isNaN = false) : x.value = y.value :=
  le_antisymm (not_lt.mp (second.not_value_lt first also numeral))
    (not_lt.mp (first.not_value_lt second numeral also))

/-- A number is a multiple of a unit, or smaller than the numbers that the unit belongs to, which
is not the least one. -/
theorem exists_count_or_lt (unit : ℤ) (x : Binary64) :
    (∃ count : ℕ, x.size = count * 2 ^ unit) ∨
      unit ≠ -1074 ∧ x.size < hiddenBit * 2 ^ unit := by
  rcases Int.lt_or_le x.exponent unit with below | above
  · right
    obtain ⟨_, least, bounded, _⟩ := x.magnitude_eq
    refine ⟨by omega, ?_⟩
    have half : (2 : ℚ) ^ x.exponent * 2 ≤ 2 ^ unit := by
      rw [← zpow_add_one₀ two_ne_zero]
      exact zpow_le_zpow_right₀ one_le_two (by omega)
    have significand : (x.significand : ℚ) < 2 * hiddenBit := by exact_mod_cast bounded
    calc x.size = x.significand * 2 ^ x.exponent := x.size_eq
      _ < 2 * hiddenBit * 2 ^ x.exponent :=
        mul_lt_mul_of_pos_right significand (two_zpow_pos x.exponent)
      _ = hiddenBit * (2 ^ x.exponent * 2) := by ring
      _ ≤ hiddenBit * 2 ^ unit := mul_le_mul_of_nonneg_left half (Nat.cast_nonneg hiddenBit)
  · left
    refine ⟨x.significand * 2 ^ (x.exponent - unit).toNat, ?_⟩
    rw [size_eq, two_zpow_eq_mul above]
    push_cast
    ring

end Fields

end Binary64

end QueryTemplate
