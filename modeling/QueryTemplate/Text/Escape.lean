import QueryTemplate.Text.Basic

/-!
# Escaping

What an escaped tag writes in place of a value: each quote and each ampersand becomes a word in
angle brackets, so that a value can never end a string literal of the statement around it. Angle
brackets stay as they are, because the words are made of them and must not be escaped again.

Most values hold nothing to escape, so a text is first searched for a character that has to be
replaced, and is kept as it is if there is none.

Main statements: all the same, escaping replaces each character by itself (`escape_eq_flatMap`)
and so works on both parts of a text alone (`escape_append`).
-/

set_option autoImplicit false

namespace QueryTemplate

namespace Text

/-- The characters that cannot stand in an escaped text: the two quotes and the ampersand. -/
def needsEscape (c : Char) : Bool := c == '"' || c == '\'' || c == '&'

/-- What stands for a character in an escaped text. -/
def escapeChar (c : Char) : Text :=
  match c with
  | '"' => "<DQUOTE>".toList
  | '\'' => "<SQUOTE>".toList
  | '&' => "<AMP>".toList
  | c => [c]

/-- The first part of a text, up to the first character that needs to be replaced. -/
def plainPart (text : Text) : Text := text.takeWhile fun c => !needsEscape c

/-- The rest of a text, from the first character on that needs to be replaced. -/
def unplainPart (text : Text) : Text := text.dropWhile fun c => !needsEscape c

def isPlain (text : Text) : Bool := (unplainPart text).isEmpty

/-- What escaping comes to: a text, and whether it is the given one, which was kept as it is. -/
structure Escaping where
  text : Text
  kept : Bool
  deriving DecidableEq, Repr

def escaping (text : Text) : Escaping :=
  if isPlain text then ⟨text, true⟩
  else ⟨plainPart text ++ (unplainPart text).flatMap escapeChar, false⟩

/-- A text with each quote and each ampersand replaced by its word. -/
def escape (text : Text) : Text := (escaping text).text

theorem escapeChar_of_not_needsEscape {c : Char} (plain : needsEscape c = false) :
    escapeChar c = [c] := by
  unfold escapeChar
  split
  · simp [needsEscape] at plain
  · simp [needsEscape] at plain
  · simp [needsEscape] at plain
  · rfl

theorem flatMap_escapeChar_of_plain {text : Text} (plain : ∀ c ∈ text, needsEscape c = false) :
    text.flatMap escapeChar = text := by
  induction text with
  | nil => rfl
  | cons c rest ih =>
    have first := escapeChar_of_not_needsEscape (plain c List.mem_cons_self)
    have others := ih fun d member => plain d (List.mem_cons_of_mem c member)
    simp [first, others]

theorem needsEscape_of_mem_plainPart {text : Text} {c : Char} (member : c ∈ plainPart text) :
    needsEscape c = false := by
  have := List.all_takeWhile (l := text) (p := fun c => !needsEscape c)
  simpa using List.all_eq_true.mp this c member

/-- A part that is copied is what becomes of its characters one by one. -/
theorem plainPart_append_flatMap (text : Text) :
    plainPart text ++ (unplainPart text).flatMap escapeChar = text.flatMap escapeChar := by
  have parts : plainPart text ++ unplainPart text = text := List.takeWhile_append_dropWhile
  have front : (plainPart text).flatMap escapeChar = plainPart text :=
    flatMap_escapeChar_of_plain fun _ member => needsEscape_of_mem_plainPart member
  rw [← front, ← List.flatMap_append, parts]

/-- Escaping replaces every character by itself, also where it does not look at it. -/
theorem escape_eq_flatMap (text : Text) : escape text = text.flatMap escapeChar := by
  unfold escape escaping
  split
  · rename_i plain
    have nothing : unplainPart text = [] := List.isEmpty_iff.mp plain
    have kept : plainPart text ++ unplainPart text = text := List.takeWhile_append_dropWhile
    rw [← plainPart_append_flatMap, nothing, List.flatMap_nil, ← nothing, kept]
  · exact plainPart_append_flatMap text

theorem escape_of_plain {text : Text} (plain : ∀ c ∈ text, needsEscape c = false) :
    escape text = text :=
  (escape_eq_flatMap text).trans (flatMap_escapeChar_of_plain plain)

theorem escape_append (front back : Text) :
    escape (front ++ back) = escape front ++ escape back := by
  simp [escape_eq_flatMap]

end Text

end QueryTemplate
