import QueryTemplate.Decimal.Binary64
import QueryTemplate.Text.Numeral

/-!
# Decimal numbers

A decimal is a whole number of units, each a power of ten. This module holds its two written
forms, the binary number nearest to it, and the shortest decimal that reads back as a given binary
number.
-/

set_option autoImplicit false

namespace QueryTemplate

/-- The number `units * 10 ^ exponent`. -/
structure Decimal where
  units : Nat
  exponent : Int
  deriving DecidableEq, Repr

namespace Decimal

/-- The exponents of ten outside which a decimal of one digit overflows or vanishes: the format
reaches from about `4.9e-324` to about `1.8e308`. -/
def overflowExponent : Int := 310

def underflowExponent : Int := -324

/-- The binary number nearest to a decimal with a sign. The size is compared first, so that no
power of ten is computed for a decimal far out of range. -/
def toBinary64 (negative : Bool) (d : Decimal) : Binary64 :=
  let size : Int := (Text.decimal d.units).length + d.exponent
  if d.units = 0 ∨ size ≤ underflowExponent then Binary64.ofMagnitude negative 0
  else if overflowExponent ≤ size then
    Binary64.ofMagnitude negative Binary64.infiniteMagnitude
  else
    Binary64.ofRatio negative (d.units * Nat.pow 10 d.exponent.toNat)
      (Nat.pow 10 (-d.exponent).toNat)

/-- Positional notation: all digits, and a point if some of them stand behind it. -/
def positional (d : Decimal) : Text :=
  if 0 ≤ d.exponent then Text.decimal (d.units * Nat.pow 10 d.exponent.toNat)
  else
    let places := (-d.exponent).toNat
    let digits := Text.padZeros (places + 1) (Text.decimal d.units)
    let whole := digits.length - places
    digits.take whole ++ '.' :: digits.drop whole

/-- Scientific notation: one digit, a point and the others if there are any, and the exponent with
its sign. -/
def scientific (d : Decimal) : Text :=
  match Text.decimal d.units with
  | [] => []
  | first :: others =>
    let point := if others = [] then [] else '.' :: others
    first :: point ++ 'e' :: Text.explicitDecimal (d.exponent + others.length)

end Decimal

/-- Which of two decimals is taken that are equally near to a number. -/
inductive Tie where
  | up
  /-- The one whose last digit is even. -/
  | toEven
  deriving DecidableEq, Repr

namespace Tie

def keepsLower (tie : Tie) (units : Nat) : Bool :=
  match tie with
  | up => false
  | toEven => units % 2 = 0

end Tie

namespace Binary64

/-- The absolute value of a finite number divided by a power of ten, as a numerator and a
denominator. -/
def scaledRatio (x : Binary64) (exponent : Int) : Nat × Nat :=
  (x.numerator * Nat.pow 10 (-exponent).toNat, x.denominator * Nat.pow 10 exponent.toNat)

/-- The greatest decimal with the given exponent that does not exceed the absolute value. -/
def floorAt (x : Binary64) (exponent : Int) : Decimal :=
  let (numerator, denominator) := x.scaledRatio exponent
  ⟨numerator / denominator, exponent⟩

/-- The two decimals with the given exponent around the absolute value, the nearer one first. -/
def neighboursAt (x : Binary64) (tie : Tie) (exponent : Int) : List Decimal :=
  let (numerator, denominator) := x.scaledRatio exponent
  let lower : Decimal := ⟨numerator / denominator, exponent⟩
  let upper : Decimal := ⟨numerator / denominator + 1, exponent⟩
  let remainder := 2 * (numerator % denominator)
  if remainder < denominator ∨ (remainder = denominator ∧ tie.keepsLower lower.units) then
    [lower, upper]
  else [upper, lower]

def readsFrom (x : Binary64) (d : Decimal) : Bool := d.toBinary64 x.isNegative == x

/-- Looks for a decimal that reads back, at the given exponent and then at smaller ones, as many
as given. -/
def searchFrom (x : Binary64) (tie : Tie) : Nat → Int → Decimal
  | 0, exponent => x.floorAt exponent
  | more + 1, exponent =>
    match (x.neighboursAt tie exponent).find? x.readsFrom with
    | some d => d
    | none => searchFrom x tie more (exponent - 1)

/-- The shortest decimal that reads back as a finite number, of several the nearest, and of two
that are equally near the one that `tie` says. The search starts above the leading digit. It ends
at the latest where the number itself is a decimal: a power of two with a negative exponent has as
many places as the exponent says. -/
def shortest (x : Binary64) (tie : Tie) : Decimal :=
  let top : Int := (Text.decimal (x.numerator / x.denominator)).length
  let bottom : Int := min 0 x.exponent
  x.searchFrom tie (top - bottom).toNat top

def withSign (x : Binary64) (text : Text) : Text := if x.isNegative then '-' :: text else text

end Binary64

end QueryTemplate
