import QueryTemplate.Calendar.Date
import QueryTemplate.Decimal.Shortest

/-!
# Values

What a bind stands for: a sequence of typed values, of which the first alone counts. A template
learns two things about it, its canonical form and whether it is truthy.

Main statement: what is not truthy has an empty canonical form, the truth value `false` apart
(`isTruthy_eq_false_iff`).
-/

set_option autoImplicit false

namespace QueryTemplate

inductive Value where
  | text (t : Text)
  | number (x : Binary64)
  | integer (i : Int64)
  | boolean (b : Bool)
  | date (d : Date)
  deriving DecidableEq, Repr

abbrev Values := List Value

namespace Binary64

/-- The canonical form of a number, never with an exponent and always with a point. A whole number
has all its digits and one zero behind the point. Any other finite number is the shortest decimal
that reads back, ties upwards; it has a point because no whole number reads back as it. -/
def canonical (x : Binary64) : Text :=
  if x.isNaN then "NaN".toList
  else if !x.isFinite then x.withSign "Infinity".toList
  else if x.isIntegral then
    x.withSign (Text.decimal (x.numerator / x.denominator) ++ ['.', '0'])
  else x.withSign (x.shortest .up).positional

end Binary64

namespace Value

def canonical : Value → Text
  | .text t => t
  | .number x => x.canonical
  | .integer i => Text.signedDecimal i.toInt
  | .boolean b => Text.ofBool b
  | .date d => d.text

/-- A truth value is truthy if it is true, any other value if its canonical form is not empty. -/
def isTruthy : Value → Bool
  | .boolean b => b
  | value => !value.canonical.isEmpty

theorem isTruthy_eq_false_iff {value : Value} :
    value.isTruthy = false ↔ value = .boolean false ∨ value.canonical = [] := by
  cases value with
  | boolean b => cases b <;> simp [isTruthy, canonical, Text.ofBool]
  | text t => simp [isTruthy]
  | number x => simp [isTruthy]
  | integer i => simp [isTruthy]
  | date d => simp [isTruthy]

def text? : Value → Option Text
  | .text t => some t
  | _ => none

def equals : Value → Value → Bool
  | .number x, .number y => x.equals y
  | v, w => v == w

end Value

namespace Values

/-- The canonical form of the first value; nothing, if there is none. -/
def canonical (values : Values) : Text := (values.head?.map Value.canonical).getD []

def isTruthy (values : Values) : Bool := values.head?.any Value.isTruthy

/-- Equality of values one by one, with numbers compared as numbers. -/
def equals : Values → Values → Bool
  | [], [] => true
  | v :: vs, w :: ws => v.equals w && equals vs ws
  | _, _ => false

end Values

end QueryTemplate
