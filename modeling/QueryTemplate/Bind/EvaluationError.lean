import QueryTemplate.Text.Basic

/-!
# Evaluation errors

The ways in which a bind fails to be evaluated. Each error names the bind that it blames.
-/

set_option autoImplicit false

namespace QueryTemplate

inductive EvaluationError where
  /-- The expression behind a bind is malformed or failed. -/
  | expression (bind detail : Text)
  /-- The context is of no use to the bind. -/
  | incompatibleContext (bind detail : Text)
  deriving DecidableEq, Repr

namespace EvaluationError

def bind : EvaluationError → Text
  | expression name _ | incompatibleContext name _ => name

def detail : EvaluationError → Text
  | expression _ text | incompatibleContext _ text => text

def message : EvaluationError → Text
  | expression name text =>
    "failed to evaluate bind '".toList ++ name ++ "': ".toList ++ text
  | incompatibleContext name text =>
    "incompatible context for bind '".toList ++ name ++ "': ".toList ++ text

end EvaluationError

end QueryTemplate
