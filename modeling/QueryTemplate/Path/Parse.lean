import QueryTemplate.Path.Basic
import QueryTemplate.Text.Blank

/-!
# Reading path expressions

An expression consists of paths with bars between them, a path of steps with slashes between them.
A path may start with a slash, or with a period and a slash, neither of which is a step. A step is
a test and, in brackets at its very end, a position. Blanks around paths, tests and positions do
not count.

Faults are found from left to right; within a step, the position is looked at before the test.
-/

set_option autoImplicit false

namespace QueryTemplate

/-- Reads texts one after the other, each given its byte offset. The first starts at `offset`, and
one byte stands between two of them. -/
def readEach {α : Type} (read : Nat → Text → Except PathFault α) (offset : Nat) :
    List Text → Except PathFault (List α)
  | [] => .ok []
  | text :: texts =>
    match read offset text with
    | .error fault => .error fault
    | .ok first => (readEach read (offset + text.byteLength + 1) texts).map (first :: ·)

namespace StepTest

def read (offset : Nat) (text : Text) : Except PathFault StepTest :=
  match Text.trim text with
  | [] => .error ⟨offset, .emptyStep⟩
  | ['.'] => .ok .self
  | ['.', '.'] => .error ⟨offset, .parentStep⟩
  | ['*'] => .ok .wildcard
  | trimmed =>
    if trimmed.any fun c => c == ']' || c == '*' || Text.isBlank c then
      .error ⟨offset, .invalidName⟩
    else .ok (.name trimmed)

end StepTest

namespace Step

/-- Reads a position, which is a number of 64 bits other than zero. -/
def readPosition? (text : Text) : Option Nat :=
  match Text.readWord? (Text.trim text) with
  | some word => if word = 0 then none else some word.toNat
  | none => none

/-- The text in front of a closing bracket that ends the given text. -/
def beforeBracket? (text : Text) : Option Text :=
  if text.getLast? = some ']' then some text.dropLast else none

def read (offset : Nat) (text : Text) : Except PathFault Step :=
  match Text.cut? ['['] text with
  | none => (StepTest.read offset text).map fun test => ⟨test, none⟩
  | some (before, behind) =>
    let bracket := offset + before.byteLength
    match beforeBracket? behind with
    | none => .error ⟨bracket, .unterminatedPredicate⟩
    | some inner =>
      match readPosition? inner with
      | none => .error ⟨bracket + 1, .badPosition⟩
      | some position => (StepTest.read offset before).map fun test => ⟨test, some position⟩

end Step

namespace Path

/-- What a path may start with before its first step. -/
def lead : Text → Text
  | '.' :: '/' :: _ => ['.', '/']
  | '/' :: _ => ['/']
  | _ => []

def read (offset : Nat) (text : Text) : Except PathFault Path :=
  let start := offset + (Text.leadingBlanks text).byteLength
  let trimmed := Text.trim text
  if trimmed = [] then .error ⟨start, .emptyPath⟩
  else
    readEach Step.read (start + (lead trimmed).byteLength)
      (Text.fields '/' (trimmed.drop (lead trimmed).length))

end Path

namespace PathExpression

def parse (text : Text) : Except PathError PathExpression :=
  match readEach Path.read 0 (Text.fields '|' text) with
  | .ok paths => .ok ⟨paths⟩
  | .error fault => .error ⟨text, fault⟩

end PathExpression

end QueryTemplate
