import QueryTemplate.Bind.Registry
import QueryTemplate.Path.Parse
import QueryTemplate.Path.Select

/-!
# Binds by path

Parameters that answer with the values of the elements that a path expression leads to. The
expression is kept as it is written, so a malformed one fails when it is asked, not before.
-/

set_option autoImplicit false

namespace QueryTemplate

/-- A path expression, as it is written, and the name that errors blame. -/
structure PathBind where
  name : Text
  expression : Text
  deriving DecidableEq, Repr

namespace PathBind

def compiled (bind : PathBind) : Except EvaluationError PathExpression :=
  match PathExpression.parse bind.expression with
  | .ok expression => .ok expression
  | .error error => .error (.expression bind.name error.message)

/-- The values of the elements. Only a document that has elements can be asked, unless the
expression leads nowhere but to the document itself. -/
def resolve (bind : PathBind) (context : Document) : Except EvaluationError Values :=
  match bind.compiled with
  | .error error => .error error
  | .ok expression =>
    if !expression.isSelf && !context.isComplex then
      .error (.incompatibleContext bind.name "context is a scalar, not a document".toList)
    else .ok ((expression.select context).map Document.value)

def toParameter (bind : PathBind) : Parameter Document := .ofContext bind.name bind.resolve

end PathBind

/-- A registration with a document registry: a name, and what stands behind it. -/
inductive DocumentBind where
  /-- A path expression; errors blame the registered name. -/
  | path (name expression : Text)
  | constant (name : Text) (value : Value)
  | sequence (name : Text) (values : Values)
  deriving DecidableEq, Repr

namespace DocumentBind

def name : DocumentBind → Text
  | path name _ | constant name _ | sequence name _ => name

def parameter : DocumentBind → Parameter Document
  | path name expression => PathBind.toParameter ⟨name, expression⟩
  | constant name value => .constant name [value]
  | sequence name values => .constant name values

end DocumentBind

namespace Registry

def bind (registry : Registry Document) (bind : DocumentBind) : Registry Document :=
  registry.register bind.name bind.parameter

/-- The registry in which binds over documents were registered one after the other. -/
def ofBinds (binds : List DocumentBind) : Registry Document := binds.foldl bind {}

def describedOverDocuments (registry : Registry Document) : Text :=
  "DocumentBindProvider \x7b params: ".toList ++ registry.described ++ [' ', '}']

end Registry

end QueryTemplate
