import QueryTemplate.Toml.Value

/-!
# Words in TOML text

Truth values, numbers, dates and times. Each is a word without blanks, except that a blank may
stand between a date and a time.
-/

set_option autoImplicit false

namespace QueryTemplate

namespace Toml

/-- Digits with single underscores between them, put together, if `isDigit` holds of all. -/
def joinedDigits? (isDigit : Char → Bool) (text : Text) : Option Text :=
  let groups := Text.fields '_' text
  if groups.all fun group => group ≠ [] && group.all isDigit then some groups.flatten else none

/-- A text without the sign that it may start with, and whether that is a minus sign. -/
def sign : Text → Bool × Text
  | '-' :: rest => (true, rest)
  | '+' :: rest => (false, rest)
  | rest => (false, rest)

/-- The digits of a number that does not start with a zero, unless it is that zero alone. -/
def wholeDigits? (text : Text) : Option Text :=
  match text with
  | '0' :: _ :: _ => none
  | _ => joinedDigits? Char.isDigit text

def signedWord? (i : Int) : Option Value :=
  if i < 0x8000000000000000 then (Whole.ofInt? i).map .whole else none

def ofBase? (base : Nat) (text : Text) : Option Value := do
  let digits ← joinedDigits? (fun c => (Text.hexDigit? c).any (· < base)) text
  let n ← Text.ofDigitsInBase? base digits
  signedWord? n

/-- A whole number: in base ten with a sign or without, or in another base that is named in front
of it. -/
def whole? (text : Text) : Option Value :=
  match text with
  | '0' :: 'x' :: rest => ofBase? 16 rest
  | '0' :: 'o' :: rest => ofBase? 8 rest
  | '0' :: 'b' :: rest => ofBase? 2 rest
  | _ => do
    let (negative, unsigned) := sign text
    let digits ← wholeDigits? unsigned
    let n : Int := Text.ofDigits digits
    signedWord? (if negative then -n else n)

def exponent? (text : Text) : Option Int := do
  let (negative, unsigned) := sign text
  let digits ← joinedDigits? Char.isDigit unsigned
  let n : Int := Text.ofDigits digits
  some (if negative then -n else n)

/-- The result of reading digits. A number beyond the greatest one is refused, one below the least
one is the negative infinity. -/
def ofDigits? (x : Binary64) : Option Value :=
  if x.isFinite ∨ x.isNegative then some (.float x) else none

/-- A number with a fraction or an exponent, or one that is not finite. -/
def float? (text : Text) : Option Value := do
  let (negative, unsigned) := sign text
  if unsigned = "inf".toList then
    some (.float (Binary64.ofMagnitude negative Binary64.infiniteMagnitude))
  else if unsigned = "nan".toList then
    some (.float (Binary64.ofMagnitude negative (Binary64.infiniteMagnitude + 1)))
  else
    let lower := unsigned.map fun c => if c = 'E' then 'e' else c
    let (significand, exponent) ←
      match Text.fields 'e' lower with
      | [significand] => some (significand, none)
      | [significand, exponent] => (exponent? exponent).map fun e => (significand, some e)
      | _ => none
    let (whole, fraction) ←
      match Text.fields '.' significand with
      | [whole] => if exponent.isSome then some (whole, []) else none
      | [whole, fraction] => (joinedDigits? Char.isDigit fraction).map (whole, ·)
      | _ => none
    let digits ← wholeDigits? whole
    let decimal : Decimal :=
      ⟨Text.ofDigits (digits ++ fraction), exponent.getD 0 - fraction.length⟩
    ofDigits? (decimal.toBinary64 negative)

def word? (text : Text) : Option Value :=
  if text = "true".toList then some (.boolean true)
  else if text = "false".toList then some (.boolean false)
  else ((moment? text).map .moment).orElse fun _ => (whole? text).orElse fun _ => float? text

/-- The characters that words are made of. None of them can follow a word. -/
def isWordChar (c : Char) : Bool :=
  c.isAlphanum || c == '_' || c == '+' || c == '-' || c == '.' || c == ':'

/-- Reads a word, or a date and a time with a blank between them: the value, and what follows it.
-/
def scalar? (text : Text) : Option (Value × Text) :=
  let word := text.takeWhile isWordChar
  let rest := text.dropWhile isWordChar
  match date? word, rest with
  | some (_, []), ' ' :: behind =>
    let time := behind.takeWhile isWordChar
    if time = [] then (word? word).map (·, rest)
    else (word? (word ++ ' ' :: time)).map (·, behind.dropWhile isWordChar)
  | _, _ => (word? word).map (·, rest)

end Toml

end QueryTemplate
