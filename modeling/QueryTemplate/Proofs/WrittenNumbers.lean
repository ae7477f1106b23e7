import QueryTemplate.Proofs.NearestNumbers

/-! How finite numbers are written: in digits, with a point, and never with an exponent. A whole
number has its own digits. Any other has the digits of the first decimal of a search that reads
back. The search finds one, as it ends where the number itself is a decimal, and finds no whole
number, as those are rounded to whole numbers. So what is written is rounded to the number. -/

set_option autoImplicit false

namespace QueryTemplate

/-! ## Digits with a point -/

namespace Text

structure IsDigits (text : Text) : Prop where
  nonempty : text ≠ []
  digits : ∀ c ∈ text, c.isDigit = true

/-- The rational number that digits denote with a point between them. -/
def pointValue (whole fraction : Text) : ℚ :=
  ofDigits whole + ofDigits fraction / 10 ^ fraction.length

section Digits

variable {text whole fraction : Text}

theorem pointValue_eq (whole fraction : Text) :
    pointValue whole fraction = ofDigits (whole ++ fraction) / (10 ^ fraction.length : ℕ) := by
  have joined : ofDigits (whole ++ fraction) =
      10 ^ fraction.length * ofDigits whole + ofDigits fraction := by
    rw [ofDigits, Nat.ofDigitChars_append, Nat.ofDigitChars_eq_ofDigitChars_zero]
    rfl
  rw [pointValue, joined]
  push_cast
  field_simp

theorem isDigits_decimal (n : ℕ) : IsDigits (decimal n) :=
  ⟨decimal_ne_nil n, fun _ member => isDigit_of_mem_decimal member⟩

theorem IsDigits.not_mem {c : Char} (digits : IsDigits text) (other : c.isDigit = false) :
    c ∉ text := fun member => by simp [digits.digits c member] at other

theorem ofDigits_padZeros (width : ℕ) (text : Text) :
    ofDigits (padZeros width text) = ofDigits text := by
  simp [ofDigits, padZeros, Nat.ofDigitChars_append, Nat.ofDigitChars_replicate_zero]

theorem IsDigits.padZeros (digits : IsDigits text) (width : ℕ) :
    IsDigits (padZeros width text) := by
  refine ⟨by simp [Text.padZeros, digits.nonempty], fun c member => ?_⟩
  obtain rfl | own := eq_or_mem_of_mem_padZeros member
  · rfl
  · exact digits.digits c own

theorem le_length_padZeros (width : ℕ) (text : Text) : width ≤ (padZeros width text).length := by
  simp only [padZeros, List.length_append, List.length_replicate]
  omega

end Digits

end Text

/-! ## Decimals -/

namespace Decimal

def value (d : Decimal) : ℚ := d.units * 10 ^ d.exponent

theorem value_eq (d : Decimal) :
    d.value = (d.units * Nat.pow 10 d.exponent.toNat : ℕ) / (Nat.pow 10 (-d.exponent).toNat : ℕ) := by
  rw [value, Binary64.zpow_eq_div]
  push_cast [Nat.pow_eq]
  ring

theorem value_lt (d : Decimal) :
    d.value < 10 ^ ((Text.decimal d.units).length + d.exponent) := by
  have units : d.units < 10 ^ (Text.decimal d.units).length :=
    (Nat.length_toDigits_le_iff (by decide) Nat.length_toDigits_pos).mp le_rfl
  rw [value, zpow_add₀ (by decide), zpow_natCast]
  exact mul_lt_mul_of_pos_right (by exact_mod_cast units) (by positivity)

theorem le_value {d : Decimal} (nonzero : d.units ≠ 0) :
    10 ^ ((Text.decimal d.units).length + d.exponent - 1) ≤ d.value := by
  have some : 0 < (Text.decimal d.units).length := Nat.length_toDigits_pos
  have units : 10 ^ ((Text.decimal d.units).length - 1) ≤ d.units := by
    rcases Nat.eq_or_lt_of_le some with one | more
    · simpa [← one, Nat.one_le_iff_ne_zero] using nonzero
    · have fewer : ¬ (Text.decimal d.units).length ≤ (Text.decimal d.units).length - 1 := by omega
      exact Nat.not_lt.mp (mt (Nat.length_toDigits_le_iff (by decide) (by omega)).mpr fewer)
  calc
    (10 : ℚ) ^ ((Text.decimal d.units).length + d.exponent - 1)
        = 10 ^ ((Text.decimal d.units).length - 1) * 10 ^ d.exponent := by
      rw [← zpow_natCast, ← zpow_add₀ (by decide), Nat.cast_sub some]
      congr 1
      omega
    _ ≤ d.units * 10 ^ d.exponent :=
      mul_le_mul_of_nonneg_right (by exact_mod_cast units) (by positivity)

theorem exists_positional_eq {d : Decimal} (negative : d.exponent < 0) :
    ∃ whole fraction : Text, d.positional = whole ++ '.' :: fraction ∧ whole.IsDigits ∧
      fraction.IsDigits ∧ Text.ofDigits (whole ++ fraction) = d.units ∧
      fraction.length = (-d.exponent).toNat := by
  let digits := Text.padZeros ((-d.exponent).toNat + 1) (Text.decimal d.units)
  let point := digits.length - (-d.exponent).toNat
  have allDigits : digits.IsDigits := (Text.isDigits_decimal d.units).padZeros _
  have long : (-d.exponent).toNat + 1 ≤ digits.length := Text.le_length_padZeros _ _
  refine ⟨digits.take point, digits.drop point, if_neg negative.not_ge, ⟨?_, ?_⟩, ⟨?_, ?_⟩, ?_, ?_⟩
  · exact List.ne_nil_of_length_pos (by rw [List.length_take]; omega)
  · exact fun c member => allDigits.digits c (List.mem_of_mem_take member)
  · exact List.ne_nil_of_length_pos (by rw [List.length_drop]; omega)
  · exact fun c member => allDigits.digits c (List.mem_of_mem_drop member)
  · rw [List.take_append_drop, Text.ofDigits_padZeros, Text.ofDigits_decimal]
  · rw [List.length_drop]
    omega

end Decimal

namespace Binary64

/-! ## The range of the format -/

section Range

variable {x : Binary64}

/-- A finite number is less than all decimals that are read as infinite without being rounded. -/
theorem size_lt_of_isFinite (finite : x.isFinite = true) : x.size < 10 ^ (309 : ℤ) := by
  obtain ⟨layout, _, bounded, normal⟩ := x.magnitude_eq
  have exponent : x.exponent ≤ 971 := by
    simp only [isFinite, decide_eq_true_eq] at finite
    unfold infiniteMagnitude hiddenBit at *
    omega
  have significand : (x.significand : ℚ) < 2 ^ 53 := by exact_mod_cast bounded
  -- `2 ^ 93` is little less than `10 ^ 28`, so that powers of the two are compared at small cost.
  calc x.size = x.significand * 2 ^ x.exponent := x.size_eq
    _ < 2 ^ 53 * 2 ^ x.exponent := mul_lt_mul_of_pos_right significand (two_zpow_pos _)
    _ ≤ 2 ^ 53 * 2 ^ (971 : ℤ) :=
      mul_le_mul_of_nonneg_left (zpow_le_zpow_right₀ one_le_two exponent) (by positivity)
    _ = (2 ^ 93) ^ 11 * 2 := by
      rw [zpow_ofNat, ← pow_add, ← pow_mul, ← pow_succ]
    _ ≤ (10 ^ 28) ^ 11 * 10 := by gcongr <;> norm_num
    _ = 10 ^ (309 : ℤ) := by
      rw [zpow_ofNat, ← pow_mul, ← pow_succ]

/-- Zero alone is less than the decimals that are rounded. -/
theorem magnitude_eq_zero_of_size_lt (small : x.size < 10 ^ (-324 : ℤ)) : x.magnitude = 0 := by
  by_contra nonzero
  obtain ⟨_, least, _, _⟩ := x.magnitude_eq
  have significand : x.significand ≠ 0 := fun none =>
    nonzero (size_eq_zero_iff.mp (by simp [size_eq, none]))
  have significand : (1 : ℚ) ≤ x.significand := by
    exact_mod_cast Nat.one_le_iff_ne_zero.mpr significand
  refine small.not_ge ?_
  calc (10 : ℚ) ^ (-324 : ℤ) = ((10 ^ 54) ^ 6)⁻¹ := by
        rw [zpow_neg, ← pow_mul]
        rfl
    _ ≤ ((2 ^ 179) ^ 6)⁻¹ := by
      gcongr
      norm_num
    _ = 2 ^ (-1074 : ℤ) := by
      rw [zpow_neg, ← pow_mul]
      rfl
    _ ≤ 2 ^ x.exponent := zpow_le_zpow_right₀ one_le_two least
    _ ≤ x.significand * 2 ^ x.exponent := le_mul_of_one_le_left (two_zpow_pos _).le significand
    _ = x.size := x.size_eq.symm

end Range

/-! ## Reading back -/

section Reading

variable {x : Binary64} {d : Decimal}

/-- A number that is a decimal is what the decimal is read as. -/
theorem readsFrom_of_size_eq (finite : x.isFinite = true) (same : x.size = d.value) :
    x.readsFrom d = true := by
  have signedZero : x.magnitude = 0 → ofMagnitude x.isNegative 0 = x := fun zero => by
    simpa [zero] using x.ofMagnitude_magnitude
  unfold readsFrom Decimal.toBinary64
  rw [beq_iff_eq]
  dsimp only
  split
  · rename_i small
    apply signedZero
    rcases small with none | small
    · exact size_eq_zero_iff.mp (by simp [same, Decimal.value, none])
    · refine magnitude_eq_zero_of_size_lt ?_
      calc x.size = d.value := same
        _ < _ := d.value_lt
        _ ≤ _ := zpow_le_zpow_right₀ (by norm_num) small
  · rename_i nonzero
    split
    · rename_i large
      refine absurd (size_lt_of_isFinite finite) (not_lt.mpr ?_)
      calc (10 : ℚ) ^ (309 : ℤ) ≤ 10 ^ ((Text.decimal d.units).length + d.exponent - 1) :=
            zpow_le_zpow_right₀ (by norm_num) (by unfold Decimal.overflowExponent at large; omega)
        _ ≤ d.value := Decimal.le_value fun none => nonzero (.inl none)
        _ = x.size := same.symm
    · exact ofRatio_of_size finite (Nat.pow_pos (by decide)).ne' (same.trans d.value_eq)

theorem ofRatio_of_readsFrom (finite : x.isFinite = true) (nonzero : x.magnitude ≠ 0)
    (reads : x.readsFrom d = true) :
    ofRatio x.isNegative (d.units * Nat.pow 10 d.exponent.toNat)
      (Nat.pow 10 (-d.exponent).toNat) = x := by
  simp only [readsFrom, Decimal.toBinary64, beq_iff_eq] at reads
  split at reads
  · rw [← reads] at nonzero
    exact absurd (magnitude_ofMagnitude (by decide) _) nonzero
  · split at reads
    · have infinite : x.magnitude = infiniteMagnitude := by
        rw [← reads]
        exact magnitude_ofMagnitude (by decide) _
      simp [isFinite, infinite] at finite
    · exact reads

/-- Whatever the search finds reads back, as what it ends with does. -/
theorem readsFrom_searchFrom {tie : Tie} {steps : ℕ} {exponent : ℤ}
    (bottom : x.readsFrom (x.floorAt (exponent - steps)) = true) :
    x.readsFrom (x.searchFrom tie steps exponent) = true := by
  induction steps generalizing exponent with
  | zero => simpa [searchFrom] using bottom
  | succ steps ih =>
    unfold searchFrom
    split
    · rename_i d found
      exact List.find?_some found
    · refine ih ?_
      have same : exponent - 1 - steps = exponent - (steps + 1 : ℕ) := by omega
      rwa [same]

/-- A number with a negative exponent is a decimal with as many places. -/
theorem size_eq_floorAt (negative : x.exponent ≤ 0) : x.size = (x.floorAt x.exponent).value := by
  obtain ⟨places, equal⟩ := Int.eq_ofNat_of_zero_le (Int.neg_nonneg.mpr negative)
  have power : x.exponent = -(places : ℤ) := by omega
  have units : (x.floorAt x.exponent).units = x.significand * 5 ^ places := by
    have numerator : x.significand * 10 ^ places = x.significand * 5 ^ places * 2 ^ places := by
      rw [mul_assoc, ← mul_pow]
      rfl
    simp [floorAt, scaledRatio, Binary64.numerator, denominator, power, numerator]
  have exponent : (x.floorAt x.exponent).exponent = x.exponent := rfl
  have ten : (10 : ℚ) ^ places = 5 ^ places * 2 ^ places := by
    rw [← mul_pow]
    norm_num
  rw [size_eq, Decimal.value, units, exponent, power, zpow_neg, zpow_neg, zpow_natCast,
    zpow_natCast, ten]
  push_cast
  field_simp

theorem readsFrom_shortest (finite : x.isFinite = true) (tie : Tie)
    (negative : x.exponent ≤ 0) : x.readsFrom (x.shortest tie) = true := by
  refine readsFrom_searchFrom ?_
  have bottom (top : ℕ) : (top : ℤ) - ((top : ℤ) - min 0 x.exponent).toNat = x.exponent := by omega
  rw [bottom]
  exact readsFrom_of_size_eq finite (size_eq_floorAt negative)

end Reading

/-! ## Canonical forms -/

/-- The digits in front of the point and behind it that a number is written with. The decimal that
they denote is rounded to the number. -/
structure IsWritten (x : Binary64) (whole fraction : Text) : Prop where
  canonical : x.canonical = x.withSign (whole ++ '.' :: fraction)
  wholeDigits : whole.IsDigits
  fractionDigits : fraction.IsDigits
  rounded : ofRatio x.isNegative (Text.ofDigits (whole ++ fraction)) (10 ^ fraction.length) = x

section Written

variable {x y : Binary64}

theorem isNaN_of_isFinite (finite : x.isFinite = true) : x.isNaN = false := by
  simp only [isFinite, isNaN, decide_eq_true_eq, decide_eq_false_iff_not] at finite ⊢
  omega

theorem denominator_pos (x : Binary64) : 0 < x.denominator := Nat.two_pow_pos _

theorem size_eq_natCast_iff {n : ℕ} : x.size = n ↔ x.numerator = n * x.denominator := by
  rw [size, div_eq_iff (by exact_mod_cast x.denominator_pos.ne')]
  exact_mod_cast Iff.rfl

theorem isIntegral_iff : x.isIntegral = true ↔ ∃ n : ℕ, x.size = n := by
  simp only [isIntegral, decide_eq_true_eq, ← Nat.dvd_iff_mod_eq_zero, dvd_iff_exists_eq_mul_left,
    size_eq_natCast_iff]

theorem isWritten_whole {n : ℕ} (finite : x.isFinite = true) (same : x.size = n) :
    x.IsWritten (Text.decimal n) ['0'] := by
  have integral : x.isIntegral = true := isIntegral_iff.mpr ⟨n, same⟩
  have quotient : x.numerator / x.denominator = n :=
    Nat.div_eq_of_eq_mul_left x.denominator_pos (size_eq_natCast_iff.mp same)
  refine ⟨?_, Text.isDigits_decimal n, Text.isDigits_decimal 0, ?_⟩
  · simp [Binary64.canonical, isNaN_of_isFinite finite, finite, integral, quotient]
  · have exact : Text.pointValue (Text.decimal n) ['0'] = n := by
      have zero : Text.ofDigits ['0'] = 0 := rfl
      simp [Text.pointValue, Text.ofDigits_decimal, zero]
    refine ofRatio_of_size finite (Nat.pow_pos (by decide)).ne' ?_
    rw [same, ← exact, Text.pointValue_eq]

/-- A number that is not whole is written with the shortest decimal, which is not whole either. -/
theorem exists_isWritten_of_not_whole (finite : x.isFinite = true) (notWhole : ∀ n : ℕ, x.size ≠ n) :
    ∃ whole fraction, x.IsWritten whole fraction := by
  have fractional : x.isIntegral = false :=
    Bool.eq_false_iff.mpr fun integral => (isIntegral_iff.mp integral).elim notWhole
  have nonzero : x.magnitude ≠ 0 := fun none => notWhole 0 (by simp [size_eq_zero_iff.mpr none])
  have exponent : x.exponent ≤ 0 := by
    by_contra coarse
    refine notWhole (x.significand * 2 ^ (x.exponent - 0).toNat) ?_
    rw [size_eq, two_zpow_eq_mul (Int.not_le.mp coarse).le, zpow_zero, mul_one, Nat.cast_mul]
  have rounded := ofRatio_of_readsFrom finite nonzero (readsFrom_shortest finite .up exponent)
  have places : (x.shortest .up).exponent < 0 := by
    by_contra whole
    have one : Nat.pow 10 (-(x.shortest .up).exponent).toNat = 1 := by
      rw [Int.toNat_of_nonpos (by omega)]
    rw [one] at rounded
    obtain ⟨n, same⟩ := exists_size_ofRatio_one (by rwa [rounded])
    exact notWhole n (by rwa [rounded] at same)
  obtain ⟨whole, fraction, positional, wholeDigits, fractionDigits, units, length⟩ :=
    Decimal.exists_positional_eq places
  refine ⟨whole, fraction, ?_, wholeDigits, fractionDigits, ?_⟩
  · simp [Binary64.canonical, isNaN_of_isFinite finite, finite, fractional, positional]
  · have one : Nat.pow 10 (x.shortest .up).exponent.toNat = 1 := by
      rw [Int.toNat_of_nonpos places.le]
    rwa [one, Nat.mul_one, ← units, Nat.pow_eq, ← length] at rounded

theorem exists_isWritten (finite : x.isFinite = true) :
    ∃ whole fraction, x.IsWritten whole fraction ∧
      ∀ n : ℕ, x.size = n → whole = Text.decimal n ∧ fraction = ['0'] := by
  by_cases whole : ∃ n : ℕ, x.size = n
  · obtain ⟨n, same⟩ := whole
    refine ⟨_, _, isWritten_whole finite same, fun other also => ?_⟩
    obtain rfl : n = other := by exact_mod_cast same.symm.trans also
    exact ⟨rfl, rfl⟩
  · have notWhole := not_exists.mp whole
    obtain ⟨whole, fraction, written⟩ := exists_isWritten_of_not_whole finite notWhole
    exact ⟨whole, fraction, written, fun n same => absurd same (notWhole n)⟩

theorem IsWritten.rounds {whole fraction : Text} (written : x.IsWritten whole fraction)
    (finite : x.isFinite = true) :
    x.Rounds (signed x.isNegative (Text.pointValue whole fraction)) := by
  rw [Text.pointValue_eq]
  have rounded := rounds_ofRatio (by rwa [written.rounded]) (Nat.pow_pos (by decide)).ne'
  rwa [written.rounded] at rounded

/-- A minus sign is written for the sign, as digits are no minus signs. -/
theorem IsWritten.head?_eq_iff {whole fraction : Text} (written : x.IsWritten whole fraction) :
    x.canonical.head? = some '-' ↔ x.isNegative = true := by
  have notMinus : (whole ++ '.' :: fraction).head? ≠ some '-' := by
    rw [List.head?_append_of_ne_nil _ written.wholeDigits.nonempty]
    exact fun first => written.wholeDigits.not_mem rfl (List.mem_of_head? first)
  rw [written.canonical, withSign]
  split <;> simp_all

/-- The text tells the sign and, as there is one point, the digits on both sides of it. -/
theorem IsWritten.eq_of_canonical_eq {whole fraction otherWhole otherFraction : Text}
    (written : x.IsWritten whole fraction) (also : y.IsWritten otherWhole otherFraction)
    (same : y.canonical = x.canonical) : y = x := by
  have sign : y.isNegative = x.isNegative := by
    rw [Bool.eq_iff_iff, ← written.head?_eq_iff, ← also.head?_eq_iff, same]
  have texts : whole ++ '.' :: fraction = otherWhole ++ '.' :: otherFraction := by
    rw [written.canonical, also.canonical, withSign, withSign, sign] at same
    split at same
    · exact (List.cons.inj same).2.symm
    · exact same.symm
  obtain ⟨rfl, -, rfl⟩ := (List.append_cons_inj_of_notMem (written.wholeDigits.not_mem rfl)
    (written.fractionDigits.not_mem rfl)).mp texts
  rw [← written.rounded, ← also.rounded, sign]

end Written

/-- A finite number is written without an exponent: a minus sign if it is negative, also for the
zero with a sign, digits, a point, and digits again. A whole number has its own digits and one zero
behind the point. What is written is rounded to the number, and to no number of another value. No
two numbers are written alike. -/
theorem canonical_lossless {x : Binary64} (finite : x.isFinite = true) :
    (∃ whole fraction : Text,
      (Value.number x).canonical =
        (if x.isNegative then ['-'] else []) ++ whole ++ '.' :: fraction ∧
      whole.IsDigits ∧ fraction.IsDigits ∧
      (∀ n : ℕ, x.size = n → whole = Text.decimal n ∧ fraction = ['0']) ∧
      x.Rounds (signed x.isNegative (Text.pointValue whole fraction)) ∧
      ∀ y : Binary64, y.isNaN = false →
        y.Rounds (signed x.isNegative (Text.pointValue whole fraction)) → y.value = x.value) ∧
    ∀ y : Binary64, y.isFinite = true →
      (Value.number y).canonical = (Value.number x).canonical → y = x := by
  obtain ⟨whole, fraction, written, exact⟩ := exists_isWritten finite
  have rounds := written.rounds finite
  refine ⟨⟨whole, fraction, ?_, written.wholeDigits, written.fractionDigits, exact, rounds,
    fun y numeral also => also.value_eq rounds numeral (isNaN_of_isFinite finite)⟩, ?_⟩
  · rw [Value.canonical, written.canonical, withSign]
    split <;> simp
  · intro y alsoFinite same
    obtain ⟨_, _, also, _⟩ := exists_isWritten alsoFinite
    exact written.eq_of_canonical_eq also same

/-- The number nearest to one tenth is written as one tenth, and no other number is. -/
theorem canonical_lossless_tenth :
    let x : Binary64 := ⟨0x3FB999999999999A⟩
    x.isFinite = true ∧ (Value.number x).canonical = "0.1".toList ∧ x.Rounds (1 / 10) ∧
      ∀ y : Binary64, y.isFinite = true → (Value.number y).canonical = "0.1".toList → y = x := by
  intro x
  have finite : x.isFinite = true := by decide
  have canonical : (Value.number x).canonical = "0.1".toList := by decide +kernel
  obtain ⟨⟨whole, fraction, shape, wholeDigits, fractionDigits, _, rounds, _⟩, unique⟩ :=
    canonical_lossless finite
  refine ⟨finite, canonical, ?_, fun y alsoFinite same =>
    unique y alsoFinite (same.trans canonical.symm)⟩
  have parts : whole ++ '.' :: fraction = ['0'] ++ '.' :: ['1'] := shape.symm.trans canonical
  obtain ⟨rfl, -, rfl⟩ := (List.append_cons_inj_of_notMem (wholeDigits.not_mem rfl)
    (fractionDigits.not_mem rfl)).mp parts
  have sign : x.isNegative = false := by decide
  have tenth : signed x.isNegative (Text.pointValue ['0'] ['1']) = 1 / 10 := by
    have zero : Text.ofDigits ['0'] = 0 := rfl
    have one : Text.ofDigits ['1'] = 1 := rfl
    simp [signed, sign, Text.pointValue, zero, one]
  rwa [tenth] at rounds

end Binary64

end QueryTemplate
