import QueryTemplate.Document.Basic
import QueryTemplate.Toml.Moment

/-!
# TOML values

The values that a TOML text writes, with the members of tables in the order in which the text
first names them, and the document that a value stands for. A document has its keys sorted and
knows no moments, so a moment becomes its text.

A table can also stand for a moment: that is how moments are passed on to readers that know
tables and strings alone.
-/

set_option autoImplicit false

namespace QueryTemplate

namespace Toml

inductive Value where
  | text (text : Text)
  | moment (text : Text)
  | boolean (b : Bool)
  | whole (n : Whole)
  | float (x : Binary64)
  | array (items : List Value)
  | table (members : List (Text × Value))
  deriving Inhabited

/-- The key that marks a table as a moment, if it is the first one. -/
def momentKey : Text := "$__toml_private_datetime".toList

def sorted (members : Members) : Members := members.mergeSort fun a b => Text.atMost a.1 b.1

namespace Value

/-- The moment that a value gives as a string. -/
def markedMoment? : Value → Option Text
  | text t => moment? t
  | _ => none

mutual

/-- The document that a value stands for. A number that is not finite is the empty document. A
table marked as a moment is the text of that moment, whatever its other members are; no other
value than the string of a moment may have the mark. -/
def document? : Value → Option Document
  | text t => some (.string t)
  | moment t => some (.string t)
  | boolean b => some (.boolean b)
  | whole n => some (.whole n)
  | float x => some (if x.isFinite then .float x else .null)
  | array items => (documents? items).map .array
  | table [] => some (.object [])
  | table ((key, value) :: rest) =>
    if key = momentKey then value.markedMoment?.map .string
    else
      match value.document?, members? rest with
      | some document, some members => some (.object (sorted ((key, document) :: members)))
      | _, _ => none

def documents? : List Value → Option (List Document)
  | [] => some []
  | item :: rest =>
    match item.document?, documents? rest with
    | some document, some documents => some (document :: documents)
    | _, _ => none

def members? : List (Text × Value) → Option Members
  | [] => some []
  | (key, value) :: rest =>
    match value.document?, members? rest with
    | some document, some members => some ((key, document) :: members)
    | _, _ => none

end

end Value

end Toml

end QueryTemplate
