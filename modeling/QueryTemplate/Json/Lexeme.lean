import QueryTemplate.Json.Number

/-!
# Lexemes of JSON text

The words and marks of JSON text, blanks between them left out.

Reading a lexeme always takes something off the text (`length_le_of_read?`), which is why reading
all of them comes to an end.
-/

set_option autoImplicit false

namespace QueryTemplate

namespace Json

inductive Lexeme where
  | openArray
  | closeArray
  | openObject
  | closeObject
  | comma
  | colon
  | string (t : Text)
  /-- A number, a truth value or the empty value. -/
  | scalar (document : Document)

namespace Lexeme

def isBlank (c : Char) : Bool := c == ' ' || c == '\t' || c == '\n' || c == '\r'

/-- The characters that numbers are made of. None of them can follow a number. -/
def isNumeric (c : Char) : Bool :=
  c.isDigit || c == '-' || c == '+' || c == '.' || c == 'e' || c == 'E'

def escaped? : Char → Option Char
  | '"' => some '"'
  | '\\' => some '\\'
  | '/' => some '/'
  | 'b' => some '\x08'
  | 'f' => some '\x0c'
  | 'n' => some '\n'
  | 'r' => some '\r'
  | 't' => some '\t'
  | _ => none

def codeUnit? (a b c d : Char) : Option Nat := Text.ofDigitsInBase? 16 [a, b, c, d]

/-- The character of two code units that form a pair. -/
def ofPair? (high low : Nat) : Option Char :=
  if 0xD800 ≤ high ∧ high < 0xDC00 ∧ 0xDC00 ≤ low ∧ low < 0xE000 then
    Text.ofCodePoint? (0x10000 + (high - 0xD800) * 0x400 + (low - 0xDC00))
  else none

/-- Reads a string behind its opening quote: the string, and what follows its closing quote.
Controls have to be escaped; a character that is escaped by its number and beyond four digits is
written as a pair. -/
def stringBody : Text → Option (Text × Text)
  | [] => none
  | '"' :: rest => some ([], rest)
  | '\\' :: 'u' :: a :: b :: c :: d :: rest =>
    match codeUnit? a b c d with
    | none => none
    | some unit =>
      match Text.ofCodePoint? unit with
      | some character => Text.prepend (some character) (stringBody rest)
      | none =>
        match rest with
        | '\\' :: 'u' :: e :: f :: g :: h :: rest =>
          Text.prepend ((codeUnit? e f g h).bind (ofPair? unit)) (stringBody rest)
        | _ => none
  | '\\' :: c :: rest => Text.prepend (escaped? c) (stringBody rest)
  | c :: rest => if c < ' ' then none else Text.prepend (some c) (stringBody rest)

theorem length_lt_of_stringBody {text content rest : Text}
    (read : stringBody text = some (content, rest)) : rest.length < text.length := by
  fun_induction stringBody text generalizing content rest with
  | case1 => cases read
  | case2 => cases read; simp
  | case3 => cases read
  | case4 a b c d rest unit _ character _ ih =>
    obtain ⟨_, _, _, inner, _⟩ := Text.prepend_eq_some read
    have := ih inner
    simp only [List.length_cons]
    omega
  | case5 a b c d unit _ _ e f g h rest ih =>
    obtain ⟨_, _, _, inner, _⟩ := Text.prepend_eq_some read
    have := ih inner
    simp only [List.length_cons]
    omega
  | case6 => cases read
  | case7 c rest _ ih =>
    obtain ⟨_, _, _, inner, _⟩ := Text.prepend_eq_some read
    have := ih inner
    simp only [List.length_cons]
    omega
  | case8 => cases read
  | case9 c rest _ _ _ _ ih =>
    obtain ⟨_, _, _, inner, _⟩ := Text.prepend_eq_some read
    have := ih inner
    simp only [List.length_cons]
    omega

def word? (letters : Text) : Option Document :=
  if letters = "null".toList then some .null
  else if letters = "true".toList then some (.boolean true)
  else if letters = "false".toList then some (.boolean false)
  else none

def mark? : Char → Option Lexeme
  | '[' => some openArray
  | ']' => some closeArray
  | '{' => some openObject
  | '}' => some closeObject
  | ',' => some comma
  | ':' => some colon
  | _ => none

/-- Reads one lexeme at the start of a text, given its first character: the lexeme, and what
follows it. -/
def read? (c : Char) (rest : Text) : Option (Lexeme × Text) :=
  match mark? c with
  | some mark => some (mark, rest)
  | none =>
    if c = '"' then (stringBody rest).map fun (text, rest) => (string text, rest)
    else if c = '-' ∨ c.isDigit then
      ((NumberText.parse? (c :: rest.takeWhile isNumeric)).bind NumberText.document?).map
        fun document => (scalar document, rest.dropWhile isNumeric)
    else
      (word? (c :: rest.takeWhile Char.isAlpha)).map
        fun document => (scalar document, rest.dropWhile Char.isAlpha)

theorem length_le_of_read? {c : Char} {rest behind : Text} {lexeme : Lexeme}
    (found : read? c rest = some (lexeme, behind)) : behind.length ≤ rest.length := by
  unfold read? at found
  split at found
  · cases found
    exact Nat.le_refl _
  · split at found
    · obtain ⟨⟨_, _⟩, body, equal⟩ := Option.map_eq_some_iff.mp found
      cases equal
      exact Nat.le_of_lt (length_lt_of_stringBody body)
    · split at found
      all_goals
        obtain ⟨_, _, equal⟩ := Option.map_eq_some_iff.mp found
        cases equal
        exact (List.dropWhile_sublist _).length_le

/-- The lexemes of a text, if all of it is made of them and of blanks. -/
def ofText? (text : Text) : Option (List Lexeme) :=
  match text with
  | [] => some []
  | c :: rest =>
    if isBlank c then ofText? rest
    else
      match _ : read? c rest with
      | none => none
      | some (lexeme, behind) => (ofText? behind).map (lexeme :: ·)
termination_by text.length
decreasing_by
  · simp
  · exact Nat.lt_succ_of_le (length_le_of_read? ‹read? c rest = some (lexeme, behind)›)

end Lexeme

end Json

end QueryTemplate
