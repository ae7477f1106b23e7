import QueryTemplate.Document.Basic
import QueryTemplate.Path.Basic

/-!
# Selecting elements

The elements that a path expression leads to. Below an object are the elements of its members,
below an array the elements below each of its items. A position counts the elements below one
element, so a step with a position selects at most one for each element that it starts from.
-/

set_option autoImplicit false

namespace QueryTemplate

namespace StepTest

def admits (test : StepTest) (key : Text) : Bool :=
  match test with
  | self => false
  | name wanted => key == wanted
  | wildcard => true

end StepTest

mutual

/-- The elements below an element whose keys a test admits, in the order of the document. -/
def Document.children (test : StepTest) : Document → List Document
  | .object members =>
    (members.filter fun member => test.admits member.1).flatMap fun member => member.2.elements
  | .array items => Document.childrenOfItems test items
  | _ => []

def Document.childrenOfItems (test : StepTest) : List Document → List Document
  | [] => []
  | item :: items => Document.children test item ++ Document.childrenOfItems test items

end

namespace StepTest

def select (test : StepTest) (document : Document) : List Document :=
  match test with
  | self => [document]
  | test => document.children test

end StepTest

namespace Step

def select (step : Step) (document : Document) : List Document :=
  match step.position with
  | none => step.test.select document
  | some position => ((step.test.select document)[position - 1]?).toList

end Step

namespace Path

/-- The elements that a path leads to from one element. -/
def select : Path → Document → List Document
  | [], document => [document]
  | step :: path, document => (step.select document).flatMap (select path)

end Path

namespace PathExpression

/-- The elements that the paths of an expression lead to, path by path. -/
def select (expression : PathExpression) (document : Document) : List Document :=
  expression.paths.flatMap fun path => path.select document

end PathExpression

end QueryTemplate
