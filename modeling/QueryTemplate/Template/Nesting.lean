import QueryTemplate.Template.Basic
import QueryTemplate.Template.Token

/-!
# Nesting

Which block each token belongs to. The tokens are taken one by one; the blocks that are open
before a token form a stack, each with the nodes that stand in front of it. The first token that
closes a block wrongly ends the reading, and so does a block that is open at the end.
-/

set_option autoImplicit false

namespace QueryTemplate

/-- A block that has been opened and not yet closed, with the nodes in front of it in its own
level, the last one first. -/
structure OpenBlock where
  name : Text
  inverted : Bool
  offset : Nat
  before : Template
  deriving DecidableEq, Repr

/-- A template read in part: the nodes of the innermost level, the last one first, and the open
blocks around it, the innermost first. -/
structure Nesting where
  level : Template := .nil
  openBlocks : List OpenBlock := []
  deriving DecidableEq, Repr

namespace Nesting

/-- Adds a text to a level whose last node comes first; texts that meet are joined. -/
def pushText (text : Text) : Template → Template
  | .literal before rest => .literal (before ++ text) rest
  | level => .literal text level

def step (nesting : Nesting) : Token → Except SyntaxError Nesting
  | .text text => .ok { nesting with level := pushText text nesting.level }
  | .slot name escaped _ => .ok { nesting with level := .slot name escaped nesting.level }
  | .opening name inverted offset =>
    .ok ⟨.nil, ⟨name, inverted, offset, nesting.level⟩ :: nesting.openBlocks⟩
  | .closing name offset =>
    match nesting.openBlocks with
    | [] => .error (.unmatchedCloseTag name none offset)
    | block :: outer =>
      if block.name = name then
        .ok ⟨.block block.name block.inverted nesting.level.reverse block.before, outer⟩
      else .error (.unmatchedCloseTag name (some block.name) offset)

def finish (nesting : Nesting) : Except SyntaxError Template :=
  match nesting.openBlocks with
  | [] => .ok nesting.level.reverse
  | block :: _ => .error (.unmatchedOpenTag block.name block.offset)

/-- Takes tokens one after the other, up to the first that closes a block wrongly. -/
def steps (nesting : Nesting) : List Token → Except SyntaxError Nesting
  | [] => .ok nesting
  | token :: tokens =>
    match nesting.step token with
    | .error error => .error error
    | .ok next => next.steps tokens

end Nesting

namespace Template

def ofTokens (tokens : List Token) : Except SyntaxError Template :=
  match Nesting.steps {} tokens with
  | .error error => .error error
  | .ok nesting => nesting.finish

/-- Reads a template. All of the source is divided into tokens before any block is closed. -/
def parse (source : Text) : Except SyntaxError Template :=
  match Token.ofSource source with
  | .error error => .error error
  | .ok tokens => ofTokens tokens

end Template

end QueryTemplate
