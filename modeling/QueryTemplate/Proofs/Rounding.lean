import Mathlib.Tactic.Ring
import QueryTemplate.Value.Basic

/-! How whole numbers are rounded to binary numbers. Above the whole numbers that a significand
holds, a power of two is the unit: the number becomes the nearest multiple of the unit, and is
written with all its digits. -/

set_option autoImplicit false

namespace QueryTemplate

namespace Binary64

/-! ## Nearest multiples -/

/-- A multiple of a unit that is nearest to a number, an even one if two are equally near. -/
structure IsNearest (unit number count : Nat) : Prop where
  below : 2 * number ≤ 2 * (unit * count) + unit
  above : 2 * (unit * count) ≤ 2 * number + unit
  even : 2 * number = 2 * (unit * count) + unit ∨ 2 * (unit * count) = 2 * number + unit →
    count % 2 = 0

section Nearest

variable {unit number : Nat}

theorem isNearest_roundHalfEven (positive : 0 < unit) (number : Nat) :
    IsNearest unit number (roundHalfEven number unit) := by
  have parts : unit * (number / unit) + number % unit = number := Nat.div_add_mod number unit
  have remainder : number % unit < unit := Nat.mod_lt number positive
  unfold roundHalfEven
  dsimp only
  split
  · constructor <;> omega
  · rename_i atLeastHalf
    have next : unit * (number / unit + 1) = unit * (number / unit) + unit := Nat.mul_succ _ _
    split
    · constructor <;> omega
    · rcases Nat.mod_two_eq_zero_or_one (number / unit) with even | odd
      · rw [even, Nat.add_zero]
        constructor <;> omega
      · rw [odd]
        constructor <;> omega

theorem IsNearest.le {first second : Nat} (nearest : IsNearest unit number first)
    (other : IsNearest unit number second) (positive : 0 < unit) : first ≤ second := by
  by_contra beyond
  have step : unit * (second + 1) ≤ unit * first := Nat.mul_le_mul_left unit (by omega)
  have next : unit * (second + 1) = unit * second + unit := Nat.mul_succ _ _
  have := nearest.above
  have := other.below
  have adjacent : first = second + 1 := by
    refine Nat.eq_of_mul_eq_mul_left positive ?_
    omega
  have := nearest.even (by omega)
  have := other.even (by omega)
  omega

theorem isNearest_iff (positive : 0 < unit) {count : Nat} :
    IsNearest unit number count ↔ count = roundHalfEven number unit := by
  have rounded := isNearest_roundHalfEven positive number
  constructor
  · intro nearest
    exact Nat.le_antisymm (nearest.le rounded positive) (rounded.le nearest positive)
  · rintro rfl
    exact rounded

theorem le_roundHalfEven {lower : Nat} (bound : unit * lower ≤ number) (positive : 0 < unit) :
    lower ≤ roundHalfEven number unit := by
  by_contra beyond
  have step : unit * (roundHalfEven number unit + 1) ≤ unit * lower :=
    Nat.mul_le_mul_left unit (by omega)
  have next : unit * (roundHalfEven number unit + 1) =
    unit * roundHalfEven number unit + unit := Nat.mul_succ _ _
  have := (isNearest_roundHalfEven positive number).below
  omega

theorem roundHalfEven_le {upper : Nat} (bound : number ≤ unit * upper) (positive : 0 < unit) :
    roundHalfEven number unit ≤ upper := by
  by_contra beyond
  have step : unit * (upper + 1) ≤ unit * roundHalfEven number unit :=
    Nat.mul_le_mul_left unit (by omega)
  have next : unit * (upper + 1) = unit * upper + unit := Nat.mul_succ _ _
  have := (isNearest_roundHalfEven positive number).above
  omega

end Nearest

/-! ## Magnitudes -/

theorem magnitude_ofMagnitude {magnitude : Nat} (bounded : magnitude < signBit)
    (negative : Bool) : (ofMagnitude negative magnitude).magnitude = magnitude := by
  unfold signBit at bounded
  cases negative <;>
    simp only [Binary64.magnitude, ofMagnitude, Bool.false_eq_true, if_false, if_true,
      UInt64.toNat_ofNat', signBit] <;>
    omega

theorem isNegative_ofMagnitude {magnitude : Nat} (bounded : magnitude < signBit)
    (negative : Bool) : (ofMagnitude negative magnitude).isNegative = negative := by
  unfold signBit at bounded
  cases negative <;>
    simp only [isNegative, ofMagnitude, Bool.false_eq_true, if_false, if_true,
      UInt64.toNat_ofNat', signBit, decide_eq_false_iff_not, decide_eq_true_eq] <;>
    omega

theorem ofMagnitude_magnitude (x : Binary64) : ofMagnitude x.isNegative x.magnitude = x := by
  obtain ⟨bits⟩ := x
  have bounded : bits.toNat < 2 * signBit := bits.toNat_lt_size
  unfold ofMagnitude isNegative magnitude
  by_cases negative : signBit ≤ bits.toNat
  · have whole : signBit + bits.toNat % signBit = bits.toNat := by
      unfold signBit at *
      omega
    simp [negative, whole]
  · simp [negative, Nat.mod_eq_of_lt (Nat.not_le.mp negative)]

section Fields

variable {x : Binary64}

theorem fields_of_magnitude {field fraction : Nat} (positive : 0 < field)
    (magnitude : x.magnitude = hiddenBit * field + fraction) (bounded : fraction < hiddenBit) :
    x.significand = hiddenBit + fraction ∧ x.exponent = field - 1075 := by
  have quotient : x.magnitude / hiddenBit = field := by
    rw [magnitude, Nat.mul_add_div (by decide), Nat.div_eq_of_lt bounded, Nat.add_zero]
  have remainder : x.magnitude % hiddenBit = fraction := by
    rw [magnitude, Nat.mul_add_mod, Nat.mod_eq_of_lt bounded]
  constructor
  · rw [significand, quotient, if_neg positive.ne', remainder]
  · rw [exponent, quotient]
    omega

/-- Magnitudes count units from the first number of a unit on, up to the first of the next. -/
theorem ratio_of_magnitude {exponent count : Nat}
    (magnitude : x.magnitude = hiddenBit * (exponent + 1074) + count)
    (lower : hiddenBit ≤ count) (upper : count ≤ 2 * hiddenBit) :
    x.numerator = 2 ^ exponent * count ∧ x.denominator = 1 := by
  rcases Nat.lt_or_eq_of_le upper with within | rfl
  · have layout : x.magnitude = hiddenBit * (exponent + 1075) + (count - hiddenBit) := by
      rw [magnitude, Nat.mul_succ hiddenBit (exponent + 1074)]
      omega
    obtain ⟨significand, power⟩ := fields_of_magnitude (by omega) layout (by omega)
    have whole : hiddenBit + (count - hiddenBit) = count := by omega
    have power : x.exponent = exponent := by omega
    simp [numerator, denominator, significand, power, whole, Nat.mul_comm]
  · -- The rounding carried: the significand starts over at the next power of two.
    have layout : x.magnitude = hiddenBit * (exponent + 1076) + 0 := by
      rw [magnitude]
      ring
    obtain ⟨significand, power⟩ := fields_of_magnitude (by omega) layout (by decide)
    have power : x.exponent = (exponent + 1 : Nat) := by omega
    simp only [numerator, denominator, significand, power, Nat.pow_eq, Int.toNat_natCast]
    constructor
    · ring
    · simp

end Fields

/-! ## Whole numbers -/

theorem binaryLog_one {n exponent : Nat} (lower : 2 ^ exponent ≤ n)
    (upper : n < 2 ^ (exponent + 1)) : binaryLog n 1 = exponent := by
  have nonzero : n ≠ 0 := (Nat.lt_of_lt_of_le (Nat.two_pow_pos exponent) lower).ne'
  have log : Nat.log2 n = exponent := (Nat.log2_eq_iff nonzero).mpr ⟨lower, upper⟩
  have one : Nat.log2 1 = 0 := (Nat.log2_eq_iff Nat.one_ne_zero).mpr (by decide)
  simp only [binaryLog, log, one]
  rw [if_neg]
  · simp
  · simpa using lower

section Whole

variable {n exponent : Nat}

theorem roundHalfEven_bounds (lower : hiddenBit * 2 ^ exponent ≤ n)
    (upper : n < 2 * hiddenBit * 2 ^ exponent) :
    hiddenBit ≤ roundHalfEven n (2 ^ exponent) ∧
      roundHalfEven n (2 ^ exponent) ≤ 2 * hiddenBit := by
  have positive : 0 < 2 ^ exponent := Nat.two_pow_pos exponent
  constructor
  · exact le_roundHalfEven (by rwa [Nat.mul_comm]) positive
  · exact roundHalfEven_le (by rw [Nat.mul_comm]; exact upper.le) positive

theorem nearestMagnitude_whole (lower : hiddenBit * 2 ^ exponent ≤ n)
    (upper : n < 2 * hiddenBit * 2 ^ exponent) (bounded : exponent ≤ 970) :
    nearestMagnitude n 1 =
      hiddenBit * (exponent + 1074) + roundHalfEven n (2 ^ exponent) := by
  have nonzero : n ≠ 0 := by
    have := Nat.mul_pos (by decide : 0 < hiddenBit) (Nat.two_pow_pos exponent)
    omega
  have log : binaryLog n 1 = (exponent + 52 : Nat) := by
    refine binaryLog_one ?_ ?_
    · rw [Nat.pow_add, Nat.mul_comm]
      exact lower
    · rw [Nat.add_assoc, Nat.pow_add, Nat.mul_comm]
      exact upper
  have unit : max (binaryLog n 1 - 52) (-1074) = exponent := by omega
  obtain ⟨_, small⟩ := roundHalfEven_bounds lower upper
  simp only [nearestMagnitude, if_neg nonzero, unit, Nat.pow_eq]
  have position : ((exponent : Int) + 1074).toNat = exponent + 1074 := by omega
  have numerator : n * 2 ^ (-(exponent : Int)).toNat = n := by simp
  have denominator : 1 * 2 ^ (exponent : Int).toNat = 2 ^ exponent := by simp
  rw [position, numerator, denominator, Nat.mul_comm]
  refine Nat.min_eq_right ?_
  simp only [infiniteMagnitude, hiddenBit] at small ⊢
  omega

/-- A whole number beyond the significands is written as the nearest multiple of the unit. -/
theorem canonical_ofInt (exponent : Nat) (lower : hiddenBit * 2 ^ exponent ≤ n)
    (upper : n < 2 * hiddenBit * 2 ^ exponent) (bounded : exponent ≤ 970) :
    (ofInt n).canonical =
      Text.decimal (2 ^ exponent * roundHalfEven n (2 ^ exponent)) ++ ['.', '0'] := by
  have bounds := roundHalfEven_bounds lower upper
  have nearest := nearestMagnitude_whole lower upper bounded
  have finite : nearestMagnitude n 1 < infiniteMagnitude := by
    rw [nearest]
    simp only [infiniteMagnitude, hiddenBit] at bounds ⊢
    omega
  have small : nearestMagnitude n 1 < signBit := finite.trans (by decide)
  have made : ofInt n = ofMagnitude false (nearestMagnitude n 1) := by
    have nonnegative : ¬ (n : Int) < 0 := by omega
    simp [ofInt, ofRatio, nonnegative]
  have magnitude : (ofInt n).magnitude = nearestMagnitude n 1 := by
    rw [made, magnitude_ofMagnitude small false]
  have sign : (ofInt n).isNegative = false := by rw [made, isNegative_ofMagnitude small false]
  obtain ⟨numerator, denominator⟩ := ratio_of_magnitude (magnitude.trans nearest) bounds.1 bounds.2
  simp [canonical, isNaN, isFinite, magnitude, finite, isIntegral, numerator, denominator,
    Nat.mod_one, withSign, sign, Nat.not_lt_of_lt finite]

end Whole

end Binary64

end QueryTemplate
