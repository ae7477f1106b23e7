import QueryTemplate.Text.CodeRange

/-!
# Blank characters

The characters with the Unicode property `White_Space`, and trimming them from a text.
-/

set_option autoImplicit false

namespace QueryTemplate

namespace Text

/-- The code points with the property `White_Space`, both ends of each range included. -/
def blankRanges : CodeRanges :=
  [(0x09, 0x0D), (0x20, 0x20), (0x85, 0x85), (0xA0, 0xA0), (0x1680, 0x1680), (0x2000, 0x200A),
    (0x2028, 0x2029), (0x202F, 0x202F), (0x205F, 0x205F), (0x3000, 0x3000)]

def isBlank (c : Char) : Bool := blankRanges.contains c.toNat

def trimStart (text : Text) : Text := text.dropWhile isBlank

def trimEnd (text : Text) : Text := (text.reverse.dropWhile isBlank).reverse

def trim (text : Text) : Text := trimEnd (trimStart text)

def leadingBlanks (text : Text) : Text := text.takeWhile isBlank

theorem leadingBlanks_append_trimStart (text : Text) :
    leadingBlanks text ++ trimStart text = text :=
  List.takeWhile_append_dropWhile

end Text

end QueryTemplate
