import QueryTemplate.Calendar.Date

/-!
# Dates and times in TOML text

A date, a time of day, or both, and with both a distance from universal time. Each is kept as a
text in one normal form: the letters are capitals, a fraction has no zeros at its end, and a
distance of nothing has a plus sign.
-/

set_option autoImplicit false

namespace QueryTemplate

namespace Toml

def twoDigits? (bound : Nat) (a b : Char) : Option Nat :=
  if a.isDigit ∧ b.isDigit ∧ Text.ofDigits [a, b] ≤ bound then some (Text.ofDigits [a, b])
  else none

/-- Reads a date that the calendar has: its text, and what follows it. -/
def date? : Text → Option (Text × Text)
  | y₁ :: y₂ :: y₃ :: y₄ :: '-' :: m₁ :: m₂ :: '-' :: d₁ :: d₂ :: rest => do
    let year := [y₁, y₂, y₃, y₄]
    let month ← twoDigits? 12 m₁ m₂
    let day ← twoDigits? 31 d₁ d₂
    if year.all Char.isDigit then
      (Date.ofYearMonthDay? (Text.ofDigits year) month day).map fun date => (date.text, rest)
    else none
  | _ => none

/-- A fraction of a second has nine places at most, and is written without zeros at its end. -/
def fractionText (digits : Text) : Text :=
  match ((digits.take 9).reverse.dropWhile (· = '0')).reverse with
  | [] => []
  | places => '.' :: places

/-- Reads a time of day, up to a leap second: its text, and what follows it. -/
def time? : Text → Option (Text × Text)
  | h₁ :: h₂ :: ':' :: m₁ :: m₂ :: ':' :: s₁ :: s₂ :: rest => do
    let _ ← twoDigits? 23 h₁ h₂
    let _ ← twoDigits? 59 m₁ m₂
    let _ ← twoDigits? 60 s₁ s₂
    let time := [h₁, h₂, ':', m₁, m₂, ':', s₁, s₂]
    match rest with
    | '.' :: rest =>
      let digits := rest.takeWhile Char.isDigit
      if digits = [] then none
      else some (time ++ fractionText digits, rest.dropWhile Char.isDigit)
    | rest => some (time, rest)
  | _ => none

/-- Reads all of a text as a distance from universal time, or as none at all: its normal form. -/
def distance? : Text → Option Text
  | [] => some []
  | ['Z'] => some ['Z']
  | ['z'] => some ['Z']
  | [sign, h₁, h₂, ':', m₁, m₂] => do
    let hours ← twoDigits? 23 h₁ h₂
    let minutes ← twoDigits? 59 m₁ m₂
    let distance := [h₁, h₂, ':', m₁, m₂]
    if sign = '+' ∨ (sign = '-' ∧ hours = 0 ∧ minutes = 0) then some ('+' :: distance)
    else if sign = '-' then some ('-' :: distance)
    else none
  | _ => none

/-- The normal form of a text that is a date, a time, or both. -/
def moment? (text : Text) : Option Text :=
  match date? text with
  | some (date, []) => some date
  | some (date, separator :: rest) =>
    if separator = 'T' ∨ separator = 't' ∨ separator = ' ' then do
      let (time, rest) ← time? rest
      let distance ← distance? rest
      some (date ++ 'T' :: time ++ distance)
    else none
  | none =>
    match time? text with
    | some (time, []) => some time
    | _ => none

end Toml

end QueryTemplate
