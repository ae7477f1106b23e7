import QueryTemplate.Json.Lexeme

/-!
# Reading JSON text

JSON text is read lexeme by lexeme. What has been read of the arrays and objects that are still
open forms a stack; the state says what may come next.

An object with several members of one key keeps the place of the first and the document of the
last.
-/

set_option autoImplicit false

namespace QueryTemplate

namespace Json

inductive Frame where
  /-- The items of an array so far, the last one first. -/
  | items (before : List Document)
  /-- The members of an object so far, and the key whose document comes next. -/
  | member (before : Members) (key : Text)

/-- What has been read, and what may come next. -/
inductive State where
  | value (stack : List Frame)
  | firstItem (stack : List Frame)
  /-- A key, or the end of the object, if that may come here. -/
  | key (stack : List Frame) (before : Members) (mayEnd : Bool)
  | colon (stack : List Frame) (before : Members) (key : Text)
  | after (stack : List Frame) (document : Document)

namespace State

/-- Arrays and objects are read up to this depth. -/
def depthLimit : Nat := 127

def start (stack : List Frame) : Lexeme → Option State
  | .scalar document => some (after stack document)
  | .string text => some (after stack (.string text))
  | .openArray => if stack.length < depthLimit then some (firstItem stack) else none
  | .openObject => if stack.length < depthLimit then some (key stack [] true) else none
  | _ => none

def step : State → Lexeme → Option State
  | value stack, lexeme => start stack lexeme
  | firstItem stack, .closeArray => some (after stack (.array []))
  | firstItem stack, lexeme => start (.items [] :: stack) lexeme
  | key stack before _, .string text => some (colon stack before text)
  | key stack before true, .closeObject => some (after stack (.object before))
  | colon stack before text, .colon => some (value (.member before text :: stack))
  | after (.items before :: stack) document, .comma =>
    some (value (.items (document :: before) :: stack))
  | after (.items before :: stack) document, .closeArray =>
    some (after stack (.array (document :: before).reverse))
  | after (.member before text :: stack) document, .comma =>
    some (key stack (before.put text document) false)
  | after (.member before text :: stack) document, .closeObject =>
    some (after stack (.object (before.put text document)))
  | _, _ => none

/-- The document, if it is complete and nothing is open. -/
def result? : State → Option Document
  | after [] document => some document
  | _ => none

end State

/-- The document that a text is the JSON form of. -/
def read? (text : Text) : Option Document := do
  let lexemes ← Lexeme.ofText? text
  let state ← lexemes.foldlM State.step (.value [])
  state.result?

end Json

end QueryTemplate
