import QueryTemplate.Text.Basic

/-!
# Numerals

Whole numbers as decimal digits: written without leading zeros, padded on request, and read back.

Main statement: a written number reads back (`ofDigits_decimal`).
-/

set_option autoImplicit false

namespace QueryTemplate

namespace Text

/-- The decimal digits of a number, without leading zeros. -/
def decimal (n : Nat) : Text := Nat.toDigits 10 n

/-- The decimal digits of a number, with a sign when it is negative. -/
def signedDecimal : Int → Text
  | .ofNat n => decimal n
  | .negSucc n => '-' :: decimal (n + 1)

/-- The decimal digits of a number behind a sign, which is a plus unless the number is negative. -/
def explicitDecimal : Int → Text
  | .ofNat n => '+' :: decimal n
  | .negSucc n => '-' :: decimal (n + 1)

/-- A text with zeros in front of it, so that it has at least `width` characters. -/
def padZeros (width : Nat) (text : Text) : Text :=
  List.replicate (width - text.length) '0' ++ text

theorem eq_or_mem_of_mem_padZeros {width : Nat} {text : Text} {c : Char}
    (member : c ∈ padZeros width text) : c = '0' ∨ c ∈ text :=
  (List.mem_append.mp member).imp_left List.eq_of_mem_replicate

def hexadecimal (n : Nat) : Text := Nat.toDigits 16 n

def ofDigits (digits : Text) : Nat := Nat.ofDigitChars 10 digits 0

theorem ofDigits_decimal (n : Nat) : ofDigits (decimal n) = n :=
  Nat.ofDigitChars_toDigits (by decide) (by decide)

theorem decimal_ne_nil (n : Nat) : decimal n ≠ [] := Nat.toDigits_ne_nil

theorem isDigit_of_mem_decimal {n : Nat} {c : Char} (member : c ∈ decimal n) :
    c.isDigit = true :=
  Nat.isDigit_of_mem_toDigits (by decide) (by decide) member

def hexDigit? (c : Char) : Option Nat :=
  if '0' ≤ c ∧ c ≤ '9' then some (c.toNat - '0'.toNat)
  else if 'a' ≤ c ∧ c ≤ 'f' then some (c.toNat - 'a'.toNat + 10)
  else if 'A' ≤ c ∧ c ≤ 'F' then some (c.toNat - 'A'.toNat + 10)
  else none

/-- The number that a text of digits denotes in a base up to 16, if all of them are digits of that
base and there is at least one. -/
def ofDigitsInBase? (base : Nat) (digits : Text) : Option Nat :=
  if digits = [] then none
  else
    digits.foldl
      (fun value? c => do
        let value ← value?
        let digit ← hexDigit? c
        if digit < base then some (value * base + digit) else none)
      (some 0)

/-- The character with a code point, if that is one of a character. -/
def ofCodePoint? (n : Nat) : Option Char :=
  if n.isValidChar then some (Char.ofNat n) else none

/-- A numeral without the plus sign that it may start with. -/
def withoutPlus : Text → Text
  | '+' :: digits => digits
  | digits => digits

/-- Reads a number of 64 bits: at least one decimal digit, and at most one plus sign in front.
There is no number for a text of any other form, nor for a value of `2 ^ 64` or more. -/
def readWord? (text : Text) : Option UInt64 :=
  let digits := withoutPlus text
  if digits ≠ [] ∧ digits.all Char.isDigit then
    if fits : ofDigits digits < UInt64.size then some (UInt64.ofNatLT _ fits) else none
  else none

end Text

end QueryTemplate
