import QueryTemplate.Text.Extending
import QueryTemplate.Text.Ignorable
import QueryTemplate.Text.Invisible
import QueryTemplate.Text.Numeral

/-!
# Quoted text

A text as it is shown in descriptions: between double quotes, with the double quote, the backslash
and every character that does not stand for itself visibly written as an escape, so that the
description stays on one line and shows all that the text holds.
-/

set_option autoImplicit false

namespace QueryTemplate

namespace Text

/-- Whether a character is shown by its number: it could not be seen, or it would be drawn on the
character in front of it. -/
def isNumbered (c : Char) : Bool := isInvisible c || isIgnorable c || isExtending c

def quotedChar (c : Char) : Text :=
  match c with
  | '"' => ['\\', '"']
  | '\\' => ['\\', '\\']
  | '\n' => ['\\', 'n']
  | '\r' => ['\\', 'r']
  | '\t' => ['\\', 't']
  | '\x00' => ['\\', '0']
  | c => if isNumbered c then ['\\', 'u', '{'] ++ hexadecimal c.toNat ++ ['}'] else [c]

def quoted (text : Text) : Text := ['"'] ++ text.flatMap quotedChar ++ ['"']

def quotedList (texts : List Text) : Text :=
  ['['] ++ [',', ' '].intercalate (texts.map quoted) ++ [']']

end Text

end QueryTemplate
