import QueryTemplate.Text.Basic

/-!
# Templates

A template is a sequence of texts, slots and blocks, the body of a block being a template again.
The sequence is given by its first node and the template of the others, so that one induction
reaches every node.

Main statement: templates form a monoid under `++` (`append_assoc`).
-/

set_option autoImplicit false

namespace QueryTemplate

inductive Template where
  | nil
  | literal (text : Text) (rest : Template)
  /-- A place for the value of a bind. -/
  | slot (name : Text) (escaped : Bool) (rest : Template)
  /-- A region that is rendered if a bind is truthy or, inverted, if it is not. -/
  | block (name : Text) (inverted : Bool) (body rest : Template)
  deriving DecidableEq, Repr, Inhabited

namespace Template

def append : Template → Template → Template
  | nil, other => other
  | literal text rest, other => literal text (rest.append other)
  | slot name escaped rest, other => slot name escaped (rest.append other)
  | block name inverted body rest, other => block name inverted body (rest.append other)

instance : Append Template := ⟨append⟩

@[simp] theorem nil_append (t : Template) : nil ++ t = t := rfl

@[simp] theorem literal_append (text : Text) (rest t : Template) :
    literal text rest ++ t = literal text (rest ++ t) := rfl

@[simp] theorem slot_append (name : Text) (escaped : Bool) (rest t : Template) :
    slot name escaped rest ++ t = slot name escaped (rest ++ t) := rfl

@[simp] theorem block_append (name : Text) (inverted : Bool) (body rest t : Template) :
    block name inverted body rest ++ t = block name inverted body (rest ++ t) := rfl

@[simp] theorem append_nil (t : Template) : t ++ nil = t := by
  induction t with
  | nil => rfl
  | literal text rest ih => simp [ih]
  | slot name escaped rest ih => simp [ih]
  | block name inverted body rest _ ih => simp [ih]

theorem append_assoc (s t u : Template) : s ++ t ++ u = s ++ (t ++ u) := by
  induction s with
  | nil => rfl
  | literal text rest ih => simp [ih]
  | slot name escaped rest ih => simp [ih]
  | block name inverted body rest _ ih => simp [ih]

/-- The nodes in reverse order, in front of another template. Bodies are kept. -/
def reverseOnto : Template → Template → Template
  | nil, other => other
  | literal text rest, other => rest.reverseOnto (literal text other)
  | slot name escaped rest, other => rest.reverseOnto (slot name escaped other)
  | block name inverted body rest, other => rest.reverseOnto (block name inverted body other)

def reverse (t : Template) : Template := t.reverseOnto nil

/-- The number of nodes, those in bodies not counted. -/
def length : Template → Nat
  | nil => 0
  | literal _ rest => rest.length + 1
  | slot _ _ rest => rest.length + 1
  | block _ _ _ rest => rest.length + 1

def isEmpty : Template → Bool
  | nil => true
  | _ => false

def isLiteral : Template → Bool
  | nil => true
  | literal _ rest => rest.isLiteral
  | slot _ _ _ => false
  | block _ _ _ _ => false

/-- The names of slots and blocks in the order of their tags, as often as they occur. -/
def names : Template → List Text
  | nil => []
  | literal _ rest => rest.names
  | slot name _ rest => name :: rest.names
  | block name _ body rest => name :: (body.names ++ rest.names)

/-- The different names of slots and blocks, in the order of their first tags. -/
def bindNames (t : Template) : List Text := t.names.eraseDups

def slotTag (name : Text) (escaped : Bool) : Text :=
  if escaped then ['{', '{'] ++ name ++ ['}', '}']
  else ['{', '{', '{'] ++ name ++ ['}', '}', '}']

def openingTag (name : Text) (inverted : Bool) : Text :=
  ['{', '{', if inverted then '^' else '#'] ++ name ++ ['}', '}']

def closingTag (name : Text) : Text := ['{', '{', '/'] ++ name ++ ['}', '}']

/-- The source of a template in front of a text. Bodies are written once, however deep they
are. -/
def sourceBefore : Template → Text → Text
  | nil, tail => tail
  | literal text rest, tail => text ++ rest.sourceBefore tail
  | slot name escaped rest, tail => slotTag name escaped ++ rest.sourceBefore tail
  | block name inverted body rest, tail =>
    openingTag name inverted ++ body.sourceBefore (closingTag name ++ rest.sourceBefore tail)

/-- The source of a template, all tags in their compact forms. -/
def toSource (t : Template) : Text := t.sourceBefore []

end Template

end QueryTemplate
