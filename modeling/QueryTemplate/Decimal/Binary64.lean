/-!
# Binary floating point numbers

Numbers of the 64-bit binary format: a sign bit, 11 exponent bits and 52 fraction bits. A finite
one is the sign, a whole significand and a power of two; every operation is exact arithmetic on
natural numbers, followed by one rounding to the nearest number of the format, ties to the even
significand.
-/

set_option autoImplicit false

namespace QueryTemplate

/-- A number of the 64-bit binary format, given by its bits. -/
structure Binary64 where
  bits : UInt64
  deriving DecidableEq, Repr, Inhabited

namespace Binary64

def signBit : Nat := 0x8000000000000000

/-- The bit in front of the fraction bits: the least one of the exponent, and the hidden one of a
significand. -/
def hiddenBit : Nat := 0x10000000000000

/-- The bits of the infinity without its sign. Smaller magnitudes are finite, larger ones are no
numbers. -/
def infiniteMagnitude : Nat := 0x7FF0000000000000

/-- The bits without the sign. As whole numbers they are ordered as the absolute values are. -/
def magnitude (x : Binary64) : Nat := x.bits.toNat % signBit

def isNegative (x : Binary64) : Bool := signBit ≤ x.bits.toNat

def isFinite (x : Binary64) : Bool := x.magnitude < infiniteMagnitude

def isNaN (x : Binary64) : Bool := infiniteMagnitude < x.magnitude

def ofMagnitude (negative : Bool) (magnitude : Nat) : Binary64 :=
  ⟨UInt64.ofNat (if negative then signBit + magnitude else magnitude)⟩

/-- The whole significand of a finite number: its fraction, with the hidden bit in front unless
the exponent bits are zero. -/
def significand (x : Binary64) : Nat :=
  if x.magnitude / hiddenBit = 0 then x.magnitude else hiddenBit + x.magnitude % hiddenBit

/-- The exponent of two that belongs to `significand`. -/
def exponent (x : Binary64) : Int := max 1 (x.magnitude / hiddenBit : Nat) - 1075

/-- The absolute value of a finite number is `numerator / denominator`. -/
def numerator (x : Binary64) : Nat := x.significand * Nat.pow 2 x.exponent.toNat

def denominator (x : Binary64) : Nat := Nat.pow 2 (-x.exponent).toNat

def isIntegral (x : Binary64) : Bool := x.numerator % x.denominator = 0

/-- The whole number nearest to a quotient, the even one of two that are equally near. -/
def roundHalfEven (numerator denominator : Nat) : Nat :=
  let quotient := numerator / denominator
  let remainder := numerator % denominator
  if 2 * remainder < denominator then quotient
  else if denominator < 2 * remainder then quotient + 1
  else quotient + quotient % 2

/-- The exponent of the greatest power of two that does not exceed a positive quotient. -/
def binaryLog (numerator denominator : Nat) : Int :=
  let estimate : Int := (Nat.log2 numerator : Int) - Nat.log2 denominator
  if numerator * Nat.pow 2 (-estimate).toNat < denominator * Nat.pow 2 estimate.toNat then
    estimate - 1
  else estimate

/-- The magnitude of the number nearest to a quotient. The unit in the last place of the result is
a power of two: 52 places below the leading digit, and never below the least subnormal number.
Rounding the quotient in this unit counts magnitudes upwards from the unit's own first one, so a
carry leads to the next power of two by itself. -/
def nearestMagnitude (numerator denominator : Nat) : Nat :=
  if numerator = 0 then 0
  else
    let unit : Int := max (binaryLog numerator denominator - 52) (-1074)
    let count :=
      roundHalfEven (numerator * Nat.pow 2 (-unit).toNat) (denominator * Nat.pow 2 unit.toNat)
    min infiniteMagnitude ((unit + 1074).toNat * hiddenBit + count)

/-- The number nearest to a quotient with a sign; the infinity, from half a unit above the greatest
finite number on. -/
def ofRatio (negative : Bool) (numerator denominator : Nat) : Binary64 :=
  ofMagnitude negative (nearestMagnitude numerator denominator)

def ofInt (i : Int) : Binary64 := ofRatio (decide (i < 0)) i.natAbs 1

def mul (x y : Binary64) : Binary64 :=
  ofRatio (x.isNegative != y.isNegative) (x.numerator * y.numerator)
    (x.denominator * y.denominator)

/-- The quotient of two finite numbers, the second not zero, rounded. -/
def div (x y : Binary64) : Binary64 :=
  ofRatio (x.isNegative != y.isNegative) (x.numerator * y.denominator)
    (x.denominator * y.numerator)

def neg (x : Binary64) : Binary64 := ofMagnitude (!x.isNegative) x.magnitude

/-- Numeric equality: the two zeros are equal, and what is no number equals nothing. -/
def equals (x y : Binary64) : Bool :=
  !x.isNaN && !y.isNaN && (x == y || (x.magnitude == 0 && y.magnitude == 0))

end Binary64

end QueryTemplate
