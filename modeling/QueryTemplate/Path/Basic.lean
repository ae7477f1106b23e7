import QueryTemplate.Text.Quoted

/-!
# Path expressions

A path leads from a document to elements below it, step by step. An expression is the union of
one or more paths.
-/

set_option autoImplicit false

namespace QueryTemplate

/-- What a step selects. -/
inductive StepTest where
  | self
  | name (name : Text)
  | wildcard
  deriving DecidableEq, Repr

/-- A step: a test and, if only one of the elements that it selects is wanted, the position of
that one among them, counted from one. -/
structure Step where
  test : StepTest
  position : Option Nat := none
  deriving DecidableEq, Repr

abbrev Path := List Step

structure PathExpression where
  paths : List Path
  deriving DecidableEq, Repr

inductive PathProblem where
  | emptyPath
  | unterminatedPredicate
  | badPosition
  | emptyStep
  | parentStep
  | invalidName
  deriving DecidableEq, Repr

namespace PathProblem

def message : PathProblem → Text
  | emptyPath => "empty path".toList
  | unterminatedPredicate => "unterminated predicate".toList
  | badPosition => "position must be a positive integer".toList
  | emptyStep => "empty step".toList
  | parentStep => "parent steps are not supported".toList
  | invalidName => "invalid step name".toList

end PathProblem

/-- A problem and the byte offset at which it stands. -/
structure PathFault where
  offset : Nat
  problem : PathProblem
  deriving DecidableEq, Repr

/-- A fault together with the whole expression that it was found in. -/
structure PathError where
  expression : Text
  fault : PathFault
  deriving DecidableEq, Repr

namespace PathError

def message (error : PathError) : Text :=
  "invalid path expression '".toList ++ error.expression ++ "' at offset ".toList ++
    Text.decimal error.fault.offset ++ [':', ' '] ++ error.fault.problem.message

end PathError

namespace Step

/-- Whether the step selects the element that it starts from, without more ado. -/
def isSelf (step : Step) : Bool := step == ⟨.self, none⟩

end Step

namespace PathExpression

/-- Whether all steps select the element that they start from. -/
def isSelf (expression : PathExpression) : Bool :=
  expression.paths.all fun path => path.all Step.isSelf

end PathExpression

/-! Descriptions that show every part. -/

namespace StepTest

def described : StepTest → Text
  | self => "SelfNode".toList
  | name text => "Name(".toList ++ Text.quoted text ++ [')']
  | wildcard => "Wildcard".toList

end StepTest

namespace Step

def described (step : Step) : Text :=
  "Step \x7b test: ".toList ++ step.test.described ++ ", position: ".toList ++
    (match step.position with
      | none => "None".toList
      | some position => "Some(".toList ++ Text.decimal position ++ [')']) ++
    [' ', '}']

end Step

namespace PathExpression

private def listed (texts : List Text) : Text := ['['] ++ [',', ' '].intercalate texts ++ [']']

def described (expression : PathExpression) : Text :=
  "PathExpression \x7b paths: ".toList ++
    listed (expression.paths.map fun path => listed (path.map Step.described)) ++ [' ', '}']

end PathExpression

end QueryTemplate
