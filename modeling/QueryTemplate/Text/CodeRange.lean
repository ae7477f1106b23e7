import QueryTemplate.Text.Basic

/-!
# Ranges of code points

A class of characters as ranges of code points in ascending order, which is the form in which
Unicode lists its properties.
-/

set_option autoImplicit false

namespace QueryTemplate

namespace Text

/-- Ranges of code points, both ends included, meant to ascend and to be apart. -/
abbrev CodeRanges := List (Nat × Nat)

namespace CodeRanges

/-- Whether a code point is in one of the ranges. The ranges ascend, so the search ends at the
first one that starts above it. -/
def contains : CodeRanges → Nat → Bool
  | [], _ => false
  | (low, high) :: rest, code =>
    if code < low then false else if code ≤ high then true else contains rest code

end CodeRanges

end Text

end QueryTemplate
