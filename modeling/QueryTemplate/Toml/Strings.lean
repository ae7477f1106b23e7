import QueryTemplate.Text.Numeral

/-!
# Strings in TOML text

The four kinds of strings: basic ones with escapes and literal ones without, each on one line or
on several. A text on several lines ends its lines with a line feed alone, however they are
written.
-/

set_option autoImplicit false

namespace QueryTemplate

namespace Toml

/-- The characters that may stand in strings and comments: all but the controls, and the tab. -/
def isContent (c : Char) : Bool := c == '\t' || (' ' ≤ c && c != '\x7f')

def isLineBlank (c : Char) : Bool := c == ' ' || c == '\t'

def escaped? : Char → Option Char
  | '"' => some '"'
  | '\\' => some '\\'
  | 'b' => some '\x08'
  | 'f' => some '\x0c'
  | 'n' => some '\n'
  | 'r' => some '\r'
  | 't' => some '\t'
  | _ => none

def numbered? (digits : Text) : Option Char :=
  (Text.ofDigitsInBase? 16 digits).bind Text.ofCodePoint?

def basicBody : Text → Option (Text × Text)
  | [] => none
  | '"' :: rest => some ([], rest)
  | '\\' :: 'u' :: a :: b :: c :: d :: rest =>
    Text.prepend (numbered? [a, b, c, d]) (basicBody rest)
  | '\\' :: 'U' :: a :: b :: c :: d :: e :: f :: g :: h :: rest =>
    Text.prepend (numbered? [a, b, c, d, e, f, g, h]) (basicBody rest)
  | '\\' :: c :: rest => Text.prepend (escaped? c) (basicBody rest)
  | c :: rest => if isContent c then Text.prepend (some c) (basicBody rest) else none

def literalBody : Text → Option (Text × Text)
  | [] => none
  | '\'' :: rest => some ([], rest)
  | c :: rest => if isContent c then Text.prepend (some c) (literalBody rest) else none

/-- Where the reading of a basic string on several lines stands with respect to a backslash at the
end of a line, which joins the line to the next text that is not blank. -/
inductive Joint where
  | apart
  /-- Behind the backslash; the end of the line must follow. -/
  | before
  /-- Behind the end of the line; blanks are left out. -/
  | behind
  deriving DecidableEq, Repr

/-- Reads a basic string on several lines behind its opening quotes. Up to two quotes may stand
right before the three that end it. -/
def basicLines : Joint → Text → Option (Text × Text)
  | _, [] => none
  | .before, '\n' :: rest => basicLines .behind rest
  | .before, '\r' :: '\n' :: rest => basicLines .behind rest
  | .before, c :: rest => if isLineBlank c then basicLines .before rest else none
  | .behind, '\n' :: rest => basicLines .behind rest
  | .behind, '\r' :: '\n' :: rest => basicLines .behind rest
  | .behind, ' ' :: rest => basicLines .behind rest
  | .behind, '\t' :: rest => basicLines .behind rest
  | _, '"' :: '"' :: '"' :: '"' :: '"' :: rest => some (['"', '"'], rest)
  | _, '"' :: '"' :: '"' :: '"' :: rest => some (['"'], rest)
  | _, '"' :: '"' :: '"' :: rest => some ([], rest)
  | _, '\n' :: rest => Text.prepend (some '\n') (basicLines .apart rest)
  | _, '\r' :: '\n' :: rest => Text.prepend (some '\n') (basicLines .apart rest)
  | _, '\\' :: 'u' :: a :: b :: c :: d :: rest =>
    Text.prepend (numbered? [a, b, c, d]) (basicLines .apart rest)
  | _, '\\' :: 'U' :: a :: b :: c :: d :: e :: f :: g :: h :: rest =>
    Text.prepend (numbered? [a, b, c, d, e, f, g, h]) (basicLines .apart rest)
  | _, '\\' :: c :: rest =>
    match escaped? c with
    | some character => Text.prepend (some character) (basicLines .apart rest)
    | none => basicLines .before (c :: rest)
  | _, c :: rest =>
    if isContent c then Text.prepend (some c) (basicLines .apart rest) else none

/-- Reads a literal string on several lines behind its opening quotes. Up to two quotes may stand
right before the three that end it. -/
def literalLines : Text → Option (Text × Text)
  | [] => none
  | '\'' :: '\'' :: '\'' :: '\'' :: '\'' :: rest => some (['\'', '\''], rest)
  | '\'' :: '\'' :: '\'' :: '\'' :: rest => some (['\''], rest)
  | '\'' :: '\'' :: '\'' :: rest => some ([], rest)
  | '\n' :: rest => Text.prepend (some '\n') (literalLines rest)
  | '\r' :: '\n' :: rest => Text.prepend (some '\n') (literalLines rest)
  | c :: rest => if isContent c then Text.prepend (some c) (literalLines rest) else none

/-- A text without the end of a line that it may start with. -/
def withoutFirstBreak : Text → Text
  | '\n' :: rest => rest
  | '\r' :: '\n' :: rest => rest
  | text => text

/-- Reads a string of any kind: the string, and what follows it. -/
def string? : Text → Option (Text × Text)
  | '"' :: '"' :: '"' :: rest => basicLines .apart (withoutFirstBreak rest)
  | '\'' :: '\'' :: '\'' :: rest => literalLines (withoutFirstBreak rest)
  | '"' :: rest => basicBody rest
  | '\'' :: rest => literalBody rest
  | _ => none

end Toml

end QueryTemplate
