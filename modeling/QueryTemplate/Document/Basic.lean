import QueryTemplate.Value.Basic

/-!
# Documents

Trees of named and repeated elements, as they are read from structured text: the contexts that
binds are evaluated against, and the form in which settings arrive. The members of an object keep
their order, because selections and error reports follow it.
-/

set_option autoImplicit false

namespace QueryTemplate

/-- The whole numbers of a document: those that a signed or an unsigned word of 64 bits holds. -/
structure Whole where
  val : Int
  lower : -0x8000000000000000 ≤ val
  upper : val < 0x10000000000000000
  deriving DecidableEq, Repr

def Whole.ofInt? (i : Int) : Option Whole :=
  if fits : -0x8000000000000000 ≤ i ∧ i < 0x10000000000000000 then some ⟨i, fits.1, fits.2⟩
  else none

/-- A document. The members of an object have different keys wherever a reader of this library
built the document; nothing here depends on it. -/
inductive Document where
  | null
  | boolean (b : Bool)
  | whole (n : Whole)
  | float (x : Binary64)
  | string (t : Text)
  | array (items : List Document)
  | object (members : List (Text × Document))
  deriving Inhabited

/-- The members of an object: keys with their documents, in order. -/
abbrev Members := List (Text × Document)

namespace Members

def get? (key : Text) (members : Members) : Option Document := members.lookup key

/-- Stores a document under a key: in the place of the key, if it is there, otherwise at the
end. -/
def put (key : Text) (document : Document) : Members → Members
  | [] => [(key, document)]
  | (k, d) :: rest => if k = key then (k, document) :: rest else (k, d) :: put key document rest

@[simp] theorem get?_nil (key : Text) : get? key [] = none := rfl

theorem get?_cons (key k : Text) (d : Document) (rest : Members) :
    get? key ((k, d) :: rest) = if k = key then some d else get? key rest := by
  by_cases same : k = key
  · simp [get?, same]
  · simp [get?, List.lookup_cons, same, beq_eq_false_iff_ne.mpr (Ne.symm same)]

/-- Removes the member with a key; the last member moves into its place. -/
def swapRemove (key : Text) (members : Members) : Members :=
  match members.dropWhile fun member => member.1 != key with
  | [] => members
  | _ :: behind =>
    (members.takeWhile fun member => member.1 != key) ++ behind.getLast?.toList ++ behind.dropLast

end Members

namespace Document

/-- The value of an element. A text, a truth value or a number keeps its type; a whole number
beyond the signed words becomes the nearest binary number. An empty element, and one with elements
of its own, has the empty text. -/
def value : Document → Value
  | .string t => .text t
  | .boolean b => .boolean b
  | .whole n =>
    if n.val < 0x8000000000000000 then .integer (Int64.ofInt n.val) else .number (Binary64.ofInt n.val)
  | .float x => .number x
  | .null | .array _ | .object _ => .text []

def isComplex : Document → Bool
  | .array _ | .object _ => true
  | _ => false

/-- The elements that a document stands for under a key: an array is a repeated element. -/
def elements : Document → List Document
  | .array items => items
  | document => [document]

end Document

end QueryTemplate
