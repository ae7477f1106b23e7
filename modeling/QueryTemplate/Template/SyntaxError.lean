import QueryTemplate.Text.Numeral

/-!
# Syntax errors

The ways in which a text fails to be a template. Each error carries the byte offset of the tag
that it blames.
-/

set_option autoImplicit false

namespace QueryTemplate

inductive SyntaxError where
  | unmatchedOpenTag (name : Text) (offset : Nat)
  /-- A closing tag does not close the innermost open block, which is named if there is one. -/
  | unmatchedCloseTag (name : Text) (expected : Option Text) (offset : Nat)
  /-- A tag has no end. Raw tags end with three braces, all others with two. -/
  | unclosedTag (raw : Bool) (offset : Nat)
  | partialNotSupported (name : Text) (offset : Nat)
  /-- What stands between the braces is none of the forms of a tag. -/
  | invalidTag (content : Text) (offset : Nat)
  deriving DecidableEq, Repr

namespace SyntaxError

def offset : SyntaxError → Nat
  | unmatchedOpenTag _ offset
  | unmatchedCloseTag _ _ offset
  | unclosedTag _ offset
  | partialNotSupported _ offset
  | invalidTag _ offset => offset

def closingBraces (raw : Bool) : Text := if raw then ['}', '}', '}'] else ['}', '}']

private def atOffset (offset : Nat) : Text := " at offset ".toList ++ Text.decimal offset

private def named (name : Text) : Text := ['\''] ++ name ++ ['\'']

def message : SyntaxError → Text
  | unmatchedOpenTag name offset =>
    "unmatched open tag ".toList ++ named name ++ atOffset offset
  | unmatchedCloseTag name expected offset =>
    "unmatched close tag ".toList ++ named name ++ atOffset offset ++
      match expected with
      | none => []
      | some inner =>
        " (expected ".toList ++ named (['{', '{', '/'] ++ inner ++ ['}', '}']) ++ [')']
  | unclosedTag raw offset =>
    "unclosed tag".toList ++ atOffset offset ++ ": expected ".toList ++
      named (closingBraces raw)
  | partialNotSupported name offset =>
    "partial includes are not supported: ".toList ++ named name ++ atOffset offset
  | invalidTag content offset => "invalid tag ".toList ++ named content ++ atOffset offset

end SyntaxError

end QueryTemplate
