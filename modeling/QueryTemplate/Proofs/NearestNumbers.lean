import QueryTemplate.Proofs.NumberOrder

/-! What is computed for a quotient is the quotient rounded. The unit of the result is chosen by the
leading digit of the quotient. The count of units that is nearest to the quotient is a number of the
format, and numbers that are no multiples of the unit are farther away. -/

set_option autoImplicit false

namespace QueryTemplate

namespace Binary64

/-! ## Nearest multiples -/

section Nearest

variable {unit number count : ℕ}

theorem IsNearest.within_half (nearest : IsNearest unit number count) :
    2 * |(unit * count : ℚ) - number| ≤ unit := by
  have below : (2 * number : ℚ) ≤ 2 * (unit * count) + unit := by exact_mod_cast nearest.below
  have above : (2 * (unit * count) : ℚ) ≤ 2 * number + unit := by exact_mod_cast nearest.above
  have two : (2 : ℚ) * |(unit * count : ℚ) - number| = |2 * ((unit * count : ℚ) - number)| := by
    rw [abs_mul, abs_two]
  rw [two, abs_le]
  constructor <;> linarith

theorem IsNearest.beyond_half (nearest : IsNearest unit number count) {other : ℕ}
    (different : other ≠ count) : (unit : ℚ) ≤ 2 * |(unit * other : ℚ) - number| := by
  have below : (2 * number : ℚ) ≤ 2 * (unit * count) + unit := by exact_mod_cast nearest.below
  have above : (2 * (unit * count) : ℚ) ≤ 2 * number + unit := by exact_mod_cast nearest.above
  rcases Nat.lt_or_gt_of_ne different with less | greater
  · have step : (unit * other + unit : ℚ) ≤ unit * count := by
      exact_mod_cast Nat.mul_le_mul_left unit less
    have := neg_le_abs ((unit * other : ℚ) - number)
    linarith
  · have step : (unit * count + unit : ℚ) ≤ unit * other := by
      exact_mod_cast Nat.mul_le_mul_left unit greater
    have := le_abs_self ((unit * other : ℚ) - number)
    linarith

theorem IsNearest.even_of_abs_eq (nearest : IsNearest unit number count)
    (half : 2 * |(unit * count : ℚ) - number| = unit) : count % 2 = 0 := by
  apply nearest.even
  rcases abs_choice ((unit * count : ℚ) - number) with positive | negative
  · rw [positive] at half
    right
    have : (2 * (unit * count) : ℚ) = 2 * number + unit := by linarith
    exact_mod_cast this
  · rw [negative] at half
    left
    have : (2 * number : ℚ) = 2 * (unit * count) + unit := by linarith
    exact_mod_cast this

section Scaled

variable {size rational : ℚ}

private theorem scaled_distance (positive : 0 < size)
    (scaled : number * size = rational * unit) (other : ℕ) :
    |other * size - rational| * unit = |(unit * other : ℚ) - number| * size := by
  calc
    _ = |(other * size - rational) * unit| := by rw [abs_mul, Nat.abs_cast]
    _ = |((unit * other : ℚ) - number) * size| := by
      congr 1
      linarith
    _ = |(unit * other : ℚ) - number| * size := by rw [abs_mul, abs_of_pos positive]

theorem IsNearest.scaled (nearest : IsNearest unit number count) (nonzero : unit ≠ 0)
    (positive : 0 < size) (scaled : number * size = rational * unit) :
    (∀ other : ℕ, |count * size - rational| ≤ |other * size - rational|) ∧
      ∀ other : ℕ, other ≠ count →
        |other * size - rational| = |count * size - rational| → count % 2 = 0 := by
  have distance := scaled_distance positive scaled
  have divisor : (0 : ℚ) < unit := by exact_mod_cast Nat.pos_of_ne_zero nonzero
  have within := nearest.within_half
  constructor
  · intro other
    by_cases same : other = count
    · rw [same]
    · have beyond := nearest.beyond_half same
      rw [← mul_le_mul_iff_of_pos_right divisor, distance, distance]
      exact mul_le_mul_of_nonneg_right (by linarith) positive.le
  · intro other different equal
    have beyond := nearest.beyond_half different
    rw [← mul_left_inj' divisor.ne', distance, distance, mul_left_inj' positive.ne'] at equal
    exact nearest.even_of_abs_eq (by linarith)

theorem mul_le_iff_scaled (nonzero : unit ≠ 0) (positive : 0 < size)
    (scaled : number * size = rational * unit) (bound : ℕ) :
    bound * size ≤ rational ↔ unit * bound ≤ number := by
  have divisor : (0 : ℚ) < unit := by exact_mod_cast Nat.pos_of_ne_zero nonzero
  rw [← mul_le_mul_iff_of_pos_right divisor, ← scaled, mul_right_comm,
    mul_le_mul_iff_of_pos_right positive, mul_comm]
  exact_mod_cast Iff.rfl

theorem le_mul_iff_scaled (nonzero : unit ≠ 0) (positive : 0 < size)
    (scaled : number * size = rational * unit) (bound : ℕ) :
    rational ≤ bound * size ↔ number ≤ unit * bound := by
  have divisor : (0 : ℚ) < unit := by exact_mod_cast Nat.pos_of_ne_zero nonzero
  rw [← mul_le_mul_iff_of_pos_right divisor, ← scaled, mul_right_comm,
    mul_le_mul_iff_of_pos_right positive, mul_comm (bound : ℚ)]
  exact_mod_cast Iff.rfl

end Scaled

end Nearest

/-- A count of units that is nearest to a rational number, and an even one if another count is as
near. The unit is the one in which the number has a full significand, but for the least unit. -/
structure IsNearestCount (unit : ℤ) (count : ℕ) (rational : ℚ) : Prop
    extends IsCount unit count where
  above : unit = -1074 ∨ hiddenBit * 2 ^ unit ≤ rational
  nearest : ∀ other : ℕ, |count * 2 ^ unit - rational| ≤ |other * 2 ^ unit - rational|
  even : ∀ other : ℕ, other ≠ count →
    |other * 2 ^ unit - rational| = |count * 2 ^ unit - rational| → count % 2 = 0

section Counted

variable {x : Binary64} {unit : ℤ} {count : ℕ} {rational : ℚ}

/-- Numbers that are no multiples of the unit are farther away: the least one of a full significand
is between. -/
theorem IsNearestCount.exists_count_or_farther (counted : IsNearestCount unit count rational)
    (y : Binary64) : (∃ other : ℕ, y.size = other * 2 ^ unit) ∨
      |count * 2 ^ unit - rational| < |y.size - rational| := by
  rcases exists_count_or_lt unit y with multiple | ⟨notLeast, less⟩
  · exact .inl multiple
  · right
    have full := counted.above.resolve_left notLeast
    calc
      _ ≤ |hiddenBit * 2 ^ unit - rational| := counted.nearest hiddenBit
      _ = rational - hiddenBit * 2 ^ unit := abs_of_nonpos (by linarith) |>.trans (by ring)
      _ < rational - y.size := by linarith
      _ ≤ |y.size - rational| := abs_sub_comm y.size rational ▸ le_abs_self _

theorem IsNearestCount.nearest_size (counted : IsNearestCount unit count rational)
    (same : x.size = count * 2 ^ unit) (y : Binary64) :
    |x.size - rational| ≤ |y.size - rational| := by
  rw [same]
  rcases counted.exists_count_or_farther y with ⟨other, equal⟩ | farther
  · rw [equal]
    exact counted.nearest other
  · exact farther.le

theorem IsNearestCount.even_significand (counted : IsNearestCount unit count rational)
    (same : x.size = count * 2 ^ unit) {y : Binary64} (different : y.size ≠ x.size)
    (equal : |y.size - rational| = |x.size - rational|) : x.significand % 2 = 0 := by
  have even : count % 2 = 0 := by
    rw [same] at different equal
    rcases counted.exists_count_or_farther y with ⟨other, multiple⟩ | farther
    · rw [multiple] at different equal
      exact counted.even other (fun again => different (by rw [again])) equal
    · exact absurd equal farther.ne'
  have magnitude := (size_eq_iff counted.toIsCount).mp same
  have parity := x.significand_mod_two
  unfold hiddenBit at magnitude
  omega

theorem IsNearestCount.eq_multiple {other : ℕ}
    (counted : IsNearestCount unit count (other * 2 ^ unit)) :
    (count : ℚ) * 2 ^ unit = other * 2 ^ unit := by
  have nearest := counted.nearest other
  rw [sub_self, abs_zero, abs_nonpos_iff] at nearest
  exact sub_eq_zero.mp nearest

theorem IsNearestCount.eq_size (counted : IsNearestCount unit count x.size) :
    count * 2 ^ unit = x.size := by
  rcases counted.exists_count_or_farther x with ⟨other, multiple⟩ | farther
  · rw [multiple] at counted ⊢
    exact counted.eq_multiple
  · rw [sub_self, abs_zero] at farther
    exact absurd farther (abs_nonneg _).not_gt

/-- What is nearest without regard to signs is nearest with the sign. -/
theorem IsNearestCount.rounds (counted : IsNearestCount unit count rational)
    (same : x.size = count * 2 ^ unit) (nonnegative : 0 ≤ rational) :
    x.Rounds (signed x.isNegative rational) := by
  have distance : |x.value - signed x.isNegative rational| = |x.size - rational| :=
    abs_signed_sub _ _ _
  have beyond (y : Binary64) := y.abs_size_sub_le x.isNegative nonnegative
  constructor
  · intro y _
    exact distance.trans_le ((counted.nearest_size same y).trans (beyond y))
  · intro y _ different equal
    by_cases sizes : y.size = x.size
    · -- The number of the other sign is as near to zero alone, to which zero is the nearest.
      have zero : rational = 0 := eq_zero_of_equally_near sizes different equal
      have none : x.size = 0 := by simpa [← same, zero] using counted.nearest 0
      exact absurd ((value_eq_zero_iff.mpr (sizes.trans none)).trans
        (value_eq_zero_iff.mpr none).symm) different
    · exact counted.even_significand same sizes
        (le_antisymm ((beyond y).trans (equal.trans distance).le) (counted.nearest_size same y))

end Counted

/-! ## Quotients -/

section Quotient

variable {numerator denominator : ℕ}

/-- A quotient is less than a power of two if the quotients that are compared say so. -/
theorem div_lt_two_zpow_iff (positive : denominator ≠ 0) (exponent : ℤ) :
    (numerator / denominator : ℚ) < 2 ^ exponent ↔
      numerator * Nat.pow 2 (-exponent).toNat < denominator * Nat.pow 2 exponent.toNat := by
  have divisor : (0 : ℚ) < denominator := by exact_mod_cast Nat.pos_of_ne_zero positive
  rw [zpow_eq_div, div_lt_div_iff₀ divisor (pow_pos two_pos _), Nat.pow_eq, Nat.pow_eq,
    mul_comm (2 ^ exponent.toNat : ℚ)]
  exact_mod_cast Iff.rfl

theorem log2_bounds (nonzero : numerator ≠ 0) (positive : denominator ≠ 0) :
    (2 : ℚ) ^ ((numerator.log2 : ℤ) - denominator.log2 - 1) ≤ numerator / denominator ∧
      (numerator / denominator : ℚ) < 2 ^ ((numerator.log2 : ℤ) - denominator.log2 + 1) := by
  have bounds {n : ℕ} (nonzero : n ≠ 0) :
      (2 : ℚ) ^ (n.log2 : ℤ) ≤ n ∧ (n : ℚ) < 2 ^ ((n.log2 : ℤ) + 1) :=
    ⟨by exact_mod_cast Nat.log2_self_le nonzero, by exact_mod_cast Nat.lt_log2_self⟩
  obtain ⟨lower, upper⟩ := bounds nonzero
  obtain ⟨otherLower, otherUpper⟩ := bounds positive
  have divisor : (0 : ℚ) < denominator := by exact_mod_cast Nat.pos_of_ne_zero positive
  constructor
  · rw [sub_sub, zpow_sub₀ two_ne_zero]
    exact div_le_div₀ (Nat.cast_nonneg _) lower divisor otherUpper.le
  · rw [sub_add_eq_add_sub, zpow_sub₀ two_ne_zero]
    exact div_lt_div₀ upper otherLower (two_zpow_pos _).le (two_zpow_pos _)

theorem binaryLog_bounds (nonzero : numerator ≠ 0) (positive : denominator ≠ 0) :
    (2 : ℚ) ^ binaryLog numerator denominator ≤ numerator / denominator ∧
      (numerator / denominator : ℚ) < 2 ^ (binaryLog numerator denominator + 1) := by
  obtain ⟨lower, upper⟩ := log2_bounds nonzero positive
  unfold binaryLog
  dsimp only
  split
  · rename_i less
    exact ⟨lower, by simpa using (div_lt_two_zpow_iff positive _).mpr less⟩
  · rename_i notLess
    exact ⟨not_lt.mp (mt (div_lt_two_zpow_iff positive _).mp notLess), upper⟩

theorem hiddenBit_mul_two_zpow (unit : ℤ) : (hiddenBit : ℚ) * 2 ^ unit = 2 ^ (unit + 52) := by
  rw [zpow_add₀ two_ne_zero, mul_comm]
  norm_num [hiddenBit]

/-- Rounding a quotient in a unit counts it, if a significand can hold the count. -/
theorem isNearestCount_roundHalfEven {unit : ℤ} (positive : denominator ≠ 0)
    (least : -1074 ≤ unit)
    (full : unit = -1074 ∨ (hiddenBit * 2 ^ unit : ℚ) ≤ numerator / denominator)
    (bounded : (numerator / denominator : ℚ) ≤ (2 * hiddenBit : ℕ) * 2 ^ unit) :
    IsNearestCount unit (roundHalfEven (numerator * Nat.pow 2 (-unit).toNat)
      (denominator * Nat.pow 2 unit.toNat)) (numerator / denominator) := by
  have divisor : denominator * Nat.pow 2 unit.toNat ≠ 0 :=
    Nat.mul_ne_zero positive (Nat.two_pow_pos _).ne'
  have positiveDivisor := Nat.pos_of_ne_zero divisor
  have scaled : ((numerator * Nat.pow 2 (-unit).toNat : ℕ) : ℚ) * 2 ^ unit =
      (numerator / denominator : ℚ) * (denominator * Nat.pow 2 unit.toNat : ℕ) := by
    have nonzero : (denominator : ℚ) ≠ 0 := by exact_mod_cast positive
    rw [zpow_eq_div]
    push_cast [Nat.pow_eq]
    field_simp
  obtain ⟨nearest, even⟩ := (isNearest_roundHalfEven positiveDivisor
    (numerator * Nat.pow 2 (-unit).toNat)).scaled divisor (two_zpow_pos unit) scaled
  exact {
    least := least
    normal := full.imp_right fun enough => le_roundHalfEven
      ((mul_le_iff_scaled divisor (two_zpow_pos unit) scaled hiddenBit).mp enough) positiveDivisor
    bounded := roundHalfEven_le
      ((le_mul_iff_scaled divisor (two_zpow_pos unit) scaled (2 * hiddenBit)).mp bounded)
      positiveDivisor
    above := full
    nearest := nearest
    even := even }

theorem exists_isNearestCount (nonzero : numerator ≠ 0) (positive : denominator ≠ 0) :
    ∃ unit count, IsNearestCount unit count (numerator / denominator) ∧
      nearestMagnitude numerator denominator =
        min infiniteMagnitude ((unit + 1074).toNat * hiddenBit + count) := by
  obtain ⟨lower, upper⟩ := binaryLog_bounds nonzero positive
  let unit : ℤ := max (binaryLog numerator denominator - 52) (-1074)
  refine ⟨unit, _, isNearestCount_roundHalfEven positive (le_max_right _ _) ?_ ?_,
    by simp only [nearestMagnitude, if_neg nonzero]; rfl⟩
  · rcases le_total (binaryLog numerator denominator - 52) (-1074) with least | normal
    · exact .inl (max_eq_right least)
    · right
      have whole : unit + 52 = binaryLog numerator denominator := by
        have : unit = binaryLog numerator denominator - 52 := max_eq_left normal
        omega
      rwa [hiddenBit_mul_two_zpow, whole]
  · have double : ((2 * hiddenBit : ℕ) : ℚ) * 2 ^ unit = 2 ^ (1 + (unit + 52)) := by
      rw [Nat.cast_mul, mul_assoc, hiddenBit_mul_two_zpow, Nat.cast_two, zpow_one_add₀ two_ne_zero]
    rw [double]
    exact upper.le.trans (zpow_le_zpow_right₀ one_le_two (by omega))

theorem nearestMagnitude_lt_signBit (numerator denominator : ℕ) :
    nearestMagnitude numerator denominator < signBit := by
  unfold nearestMagnitude
  split
  · decide
  · exact (Nat.min_le_left _ _).trans_lt (by decide)

theorem magnitude_ofRatio (negative : Bool) (numerator denominator : ℕ) :
    (ofRatio negative numerator denominator).magnitude = nearestMagnitude numerator denominator :=
  magnitude_ofMagnitude (nearestMagnitude_lt_signBit numerator denominator) negative

theorem isNegative_ofRatio (negative : Bool) (numerator denominator : ℕ) :
    (ofRatio negative numerator denominator).isNegative = negative :=
  isNegative_ofMagnitude (nearestMagnitude_lt_signBit numerator denominator) negative

theorem size_ofRatio_zero (negative : Bool) (denominator : ℕ) :
    (ofRatio negative 0 denominator).size = 0 :=
  size_eq_zero_iff.mpr (magnitude_ofRatio negative 0 denominator)

/-- A quotient that is rounded to a finite number counts its units. -/
theorem exists_count_ofRatio {negative : Bool}
    (finite : (ofRatio negative numerator denominator).isFinite = true) (nonzero : numerator ≠ 0)
    (positive : denominator ≠ 0) :
    ∃ unit count, IsNearestCount unit count (numerator / denominator) ∧
      (ofRatio negative numerator denominator).size = count * 2 ^ unit := by
  obtain ⟨unit, count, counted, magnitude⟩ := exists_isNearestCount nonzero positive
  have least := counted.least
  refine ⟨unit, count, counted, (size_eq_iff counted.toIsCount).mpr ?_⟩
  simp only [isFinite, magnitude_ofRatio, decide_eq_true_eq] at finite ⊢
  unfold hiddenBit at *
  omega

theorem rounds_ofRatio {negative : Bool}
    (finite : (ofRatio negative numerator denominator).isFinite = true)
    (positive : denominator ≠ 0) :
    (ofRatio negative numerator denominator).Rounds (signed negative (numerator / denominator)) := by
  have sign := isNegative_ofRatio negative numerator denominator
  rcases eq_or_ne numerator 0 with rfl | nonzero
  · have exact := rounds_value (ofRatio negative 0 denominator)
    rwa [value, sign, size_ofRatio_zero, ← zero_div (denominator : ℚ), ← Nat.cast_zero] at exact
  · obtain ⟨unit, count, counted, same⟩ := exists_count_ofRatio finite nonzero positive
    have rounded := counted.rounds same (by positivity)
    rwa [sign] at rounded

theorem ofRatio_of_size {x : Binary64} (finite : x.isFinite = true) (positive : denominator ≠ 0)
    (same : x.size = numerator / denominator) :
    ofRatio x.isNegative numerator denominator = x := by
  have magnitude : nearestMagnitude numerator denominator = x.magnitude := by
    rcases eq_or_ne numerator 0 with rfl | nonzero
    · exact (size_eq_zero_iff.mp (by simpa using same)).symm
    · obtain ⟨unit, count, counted, magnitude⟩ := exists_isNearestCount nonzero positive
      have least := counted.least
      rw [← same] at counted
      have exact := (size_eq_iff counted.toIsCount).mp counted.eq_size.symm
      simp only [isFinite, decide_eq_true_eq] at finite
      unfold hiddenBit at *
      omega
  rw [ofRatio, magnitude, ofMagnitude_magnitude]

theorem exists_size_ofRatio_one {negative : Bool}
    (finite : (ofRatio negative numerator 1).isFinite = true) :
    ∃ n : ℕ, (ofRatio negative numerator 1).size = n := by
  rcases eq_or_ne numerator 0 with rfl | nonzero
  · exact ⟨0, by simpa using size_ofRatio_zero negative 1⟩
  obtain ⟨unit, count, counted, same⟩ := exists_count_ofRatio finite nonzero one_ne_zero
  rcases Int.le_total 0 unit with coarse | fine
  · refine ⟨count * 2 ^ (unit - 0).toNat, ?_⟩
    rw [same, two_zpow_eq_mul coarse, zpow_zero, mul_one, Nat.cast_mul]
  · have multiple : (numerator / (1 : ℕ) : ℚ) = (numerator * 2 ^ (0 - unit).toNat : ℕ) * 2 ^ unit := by
      have one := two_zpow_eq_mul fine
      rw [zpow_zero] at one
      rw [Nat.cast_mul, mul_assoc, ← one, mul_one, Nat.cast_one, div_one]
    rw [multiple] at counted
    exact ⟨numerator, by rw [same, counted.eq_multiple, ← multiple, Nat.cast_one, div_one]⟩

end Quotient

end Binary64

end QueryTemplate
