import QueryTemplate.Document.Basic

/-!
# Writing JSON text

The JSON form of a document, on one line and without blanks.
-/

set_option autoImplicit false

namespace QueryTemplate

namespace Json

/-- One character of a string: quotes, backslashes and controls are escaped, nothing else. -/
def escapedChar (c : Char) : Text :=
  match c with
  | '"' => ['\\', '"']
  | '\\' => ['\\', '\\']
  | '\x08' => ['\\', 'b']
  | '\x0c' => ['\\', 'f']
  | '\n' => ['\\', 'n']
  | '\r' => ['\\', 'r']
  | '\t' => ['\\', 't']
  | c =>
    if c < ' ' then ['\\', 'u'] ++ Text.padZeros 4 (Text.hexadecimal c.toNat) else [c]

def stringText (text : Text) : Text := ['"'] ++ text.flatMap escapedChar ++ ['"']

/-- A binary number: the shortest decimal that reads back, ties to the even digit. It is in
positional notation if its point is neither far behind its digits nor far in front of them, in
scientific notation otherwise. Without a point and an exponent it gets a point and a zero. -/
def floatText (x : Binary64) : Text :=
  let d := x.shortest .toEven
  let point : Int := (Text.decimal d.units).length + d.exponent
  x.withSign
    (if -5 < point ∧ point ≤ 16 then
      if 0 ≤ d.exponent then d.positional ++ ['.', '0'] else d.positional
    else d.scientific)

mutual

def write : Document → Text
  | .null => "null".toList
  | .boolean b => Text.ofBool b
  | .whole n => Text.signedDecimal n.val
  | .float x => if x.isFinite then floatText x else "null".toList
  | .string t => stringText t
  | .array items => ['['] ++ [','].intercalate (writeItems items) ++ [']']
  | .object members => ['{'] ++ [','].intercalate (writeMembers members) ++ ['}']

def writeItems : List Document → List Text
  | [] => []
  | item :: items => write item :: writeItems items

def writeMembers : List (Text × Document) → List Text
  | [] => []
  | (key, document) :: members =>
    (stringText key ++ [':'] ++ write document) :: writeMembers members

end

end Json

end QueryTemplate
