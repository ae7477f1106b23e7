import QueryTemplate.Document.Basic

/-!
# Numbers in JSON text

A number without fraction and exponent is a whole number, if a document can hold it. Any other is a
binary number, found in two roundings: as many leading digits as fit in 64 bits are one whole
number, which is rounded, and then scaled by a power of ten, which is rounded as well. A number
too great for the format is refused.
-/

set_option autoImplicit false

namespace QueryTemplate

namespace Json

/-- A number as it is written: digits, and the parts that may be missing. -/
structure NumberText where
  negative : Bool
  whole : Text
  fraction : Option Text
  /-- Whether the exponent is negative, and its digits. -/
  exponent : Option (Bool × Text)
  deriving DecidableEq, Repr

namespace NumberText

/-- A text without the minus sign that it may start with, and whether it does. -/
def sign : Text → Bool × Text
  | '-' :: rest => (true, rest)
  | rest => (false, rest)

def digits? (text : Text) : Option Text :=
  if text ≠ [] ∧ text.all Char.isDigit then some text else none

/-- Digits that do not start with a zero, unless they are that zero alone. -/
def whole? (text : Text) : Option Text :=
  match text with
  | '0' :: _ :: _ => none
  | _ => digits? text

def exponent? (text : Text) : Option (Bool × Text) :=
  match text with
  | '-' :: rest => (digits? rest).map (true, ·)
  | '+' :: rest => (digits? rest).map (false, ·)
  | rest => (digits? rest).map (false, ·)

def parse? (text : Text) : Option NumberText := do
  let (negative, unsigned) := sign text
  let lower := unsigned.map fun c => if c = 'E' then 'e' else c
  let (significand, exponent) ←
    match Text.fields 'e' lower with
    | [significand] => some (significand, none)
    | [significand, exponent] => (exponent? exponent).map fun parts => (significand, some parts)
    | _ => none
  match Text.fields '.' significand with
  | [whole] => (whole? whole).map (⟨negative, ·, none, exponent⟩)
  | [whole, fraction] => do
    let whole ← whole? whole
    let fraction ← digits? fraction
    some ⟨negative, whole, some fraction, exponent⟩
  | _ => none

/-- Puts digits behind a whole number while it fits in 64 bits: the number, and how many digits
were left over. -/
def takeDigits (significand : Nat) : Text → Nat × Nat
  | [] => (significand, 0)
  | c :: rest =>
    let next := 10 * significand + (c.toNat - '0'.toNat)
    if next < 0x10000000000000000 then takeDigits next rest else (significand, rest.length + 1)

/-- The whole number of the leading digits, and the power of ten that belongs to it. Digits of the
fraction that do not fit are dropped; digits before it that do not fit still count. -/
def leading (number : NumberText) : Nat × Int :=
  let (significand, skipped) := takeDigits 0 number.whole
  let fraction := number.fraction.getD []
  let (significand, dropped) := takeDigits significand fraction
  (significand, (skipped : Int) - ((fraction.length : Int) - dropped))

def greatestPower : Nat := 308

def powerOfTen (k : Nat) : Binary64 := Binary64.ofRatio false (Nat.pow 10 k) 1

/-- Multiplies a number by a power of ten in as few steps as powers of the format allow; nothing,
if the result is too great. -/
def scale? (x : Binary64) (exponent : Int) : Option Binary64 :=
  if exponent.natAbs ≤ greatestPower then
    if 0 ≤ exponent then
      let product := x.mul (powerOfTen exponent.natAbs)
      if product.isFinite then some product else none
    else some (x.div (powerOfTen exponent.natAbs))
  else if x.magnitude = 0 then some x
  else if 0 ≤ exponent then none
  else scale? (x.div (powerOfTen greatestPower)) (exponent + greatestPower)
termination_by (-exponent).toNat
decreasing_by
  simp only [greatestPower] at *
  omega

/-- Exponents beyond this are not computed with. -/
def exponentLimit : Nat := 0x80000000

/-- The absolute value of a number as a binary number, if it is not too great. -/
def float? (number : NumberText) : Option Binary64 :=
  let (significand, power) := number.leading
  let x := Binary64.ofRatio false significand 1
  match number.exponent with
  | none => scale? x power
  | some (negative, digits) =>
    let exponent := Text.ofDigits digits
    if exponent < exponentLimit then
      scale? x (if negative then power - exponent else power + exponent)
    else if significand ≠ 0 ∧ !negative then none
    else some (Binary64.ofMagnitude false 0)

/-- The whole number that is written, if it is one that a document holds. There is no negative
zero among them. -/
def wholeValue? (number : NumberText) : Option Whole :=
  let n := Text.ofDigits number.whole
  match number.fraction, number.exponent with
  | none, none =>
    if number.negative then if n = 0 then none else Whole.ofInt? (-n) else Whole.ofInt? n
  | _, _ => none

def document? (number : NumberText) : Option Document :=
  match wholeValue? number with
  | some n => some (.whole n)
  | none =>
    number.float?.map fun x => .float (if number.negative then x.neg else x)

end NumberText

end Json

end QueryTemplate
