import QueryTemplate.Template.SyntaxError
import QueryTemplate.Text.Blank

/-!
# Tokens

The source of a template is a sequence of texts and tags. A tag starts with two braces, or with
three if it is a raw tag, and ends at the first place behind them where as many closing braces
stand. Whatever else the source holds is text, single braces included.

`Tag` is a tag as it is written, `Token` what it means; `Token.ofSource` reads a whole source.
The blocks that opening and closing tags form are not looked at here.
-/

set_option autoImplicit false

namespace QueryTemplate

/-- A bind name starts with a letter or an underscore; letters, digits, underscores, periods,
colons and hyphens follow. Letters and digits are those of ASCII. -/
def isBindName : Text → Bool
  | [] => false
  | c :: rest =>
    (c.isAlpha || c == '_') &&
      rest.all fun d => d.isAlphanum || d == '_' || d == '.' || d == ':' || d == '-'

/-- A piece of a template's source. Tags carry the byte offset at which they start. -/
inductive Token where
  | text (text : Text)
  /-- A place for a value, which is written escaped or, in a raw tag, as it is. -/
  | slot (name : Text) (escaped : Bool) (offset : Nat)
  /-- The start of a block, which renders if the bind is truthy or, inverted, if it is not. -/
  | opening (name : Text) (inverted : Bool) (offset : Nat)
  | closing (name : Text) (offset : Nat)
  deriving DecidableEq, Repr

/-- A tag as it is written: whether it has three braces at each end, and what is between them. -/
structure Tag where
  raw : Bool
  content : Text
  deriving DecidableEq, Repr

namespace Tag

def mark : Text := ['{', '{']

def source (tag : Tag) : Text :=
  (if tag.raw then '{' :: mark else mark) ++ tag.content ++ SyntaxError.closingBraces tag.raw

/-- Reads a tag behind its first two braces: the tag and what follows it. If it has no end, the
answer says whether it is a raw one. -/
def cut? (inside : Text) : Except Bool (Tag × Text) :=
  let (raw, inside) :=
    match inside with
    | '{' :: inner => (true, inner)
    | inner => (false, inner)
  match Text.cut? (SyntaxError.closingBraces raw) inside with
  | some (content, rest) => .ok (⟨raw, content⟩, rest)
  | none => .error raw

theorem length_lt_of_cut?_eq_ok {inside rest : Text} {tag : Tag}
    (found : cut? inside = .ok (tag, rest)) : rest.length < inside.length := by
  unfold cut? at found
  split at found
  rename_i raw inner start
  have short : inner.length ≤ inside.length := by
    split at start <;> cases start <;> simp
  split at found
  · rename_i content rest' inner_cut
    cases found
    have := Text.length_of_cut?_eq_some inner_cut
    have : 0 < (SyntaxError.closingBraces raw).length := by
      cases raw <;> simp [SyntaxError.closingBraces]
    omega
  · cases found

/-- The bind name in a part of a tag, blanks around it disregarded. -/
def name? (tag : Tag) (offset : Nat) (part : Text) : Except SyntaxError Text :=
  let name := Text.trim part
  if isBindName name then .ok name else .error (.invalidTag tag.content offset)

/-- What a tag at an offset means. A raw tag is a slot. The first character of any other, blanks
disregarded, says whether it opens or closes a block, asks for an inclusion, or is a slot. -/
def token (tag : Tag) (offset : Nat) : Except SyntaxError Token :=
  if tag.raw then (tag.name? offset tag.content).map fun name => .slot name false offset
  else
    match Text.trim tag.content with
    | '#' :: part => (tag.name? offset part).map fun name => .opening name false offset
    | '^' :: part => (tag.name? offset part).map fun name => .opening name true offset
    | '/' :: part => (tag.name? offset part).map fun name => .closing name offset
    | '>' :: part => .error (.partialNotSupported (Text.trim part) offset)
    | part => (tag.name? offset part).map fun name => .slot name true offset

end Tag

namespace Token

def ofText (text : Text) : List Token := if text = [] then [] else [.text text]

/-- Reads the tokens of a source that starts at an offset, up to the first tag that is none. -/
def scan (offset : Nat) (source : Text) : Except SyntaxError (List Token) :=
  match _ : Text.cut? Tag.mark source with
  | none => .ok (ofText source)
  | some (before, inside) =>
    let start := offset + before.byteLength
    match _ : Tag.cut? inside with
    | .error raw => .error (.unclosedTag raw start)
    | .ok (tag, rest) =>
      match tag.token start with
      | .error error => .error error
      | .ok token =>
        (scan (start + tag.source.byteLength) rest).map fun tokens =>
          ofText before ++ token :: tokens
termination_by source.length
decreasing_by
  have := Text.length_of_cut?_eq_some ‹Text.cut? Tag.mark source = some (before, inside)›
  have := Tag.length_lt_of_cut?_eq_ok ‹Tag.cut? inside = .ok (tag, rest)›
  omega

def ofSource (source : Text) : Except SyntaxError (List Token) := scan 0 source

end Token

end QueryTemplate
