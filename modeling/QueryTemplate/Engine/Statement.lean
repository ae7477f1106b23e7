import QueryTemplate.Template.Nesting
import QueryTemplate.Template.Render

/-!
# Statements

A statement is a template with a name. The name appears in the reports of its errors, and beside
the text that it is rendered to.
-/

set_option autoImplicit false

namespace QueryTemplate

inductive StatementError where
  | malformed (statement : Text) (cause : SyntaxError)
  | evaluation (cause : EvaluationError)
  | configuration (detail : Text)
  | io (detail : Text)
  deriving DecidableEq, Repr

namespace StatementError

def message : StatementError → Text
  | malformed statement cause =>
    "Template syntax error in statement '".toList ++ statement ++ "': ".toList ++ cause.message
  | evaluation cause => "Evaluation error: ".toList ++ cause.message
  | configuration detail => "Configuration error: ".toList ++ detail
  | io detail => "IO error: ".toList ++ detail

def causeMessage? : StatementError → Option Text
  | malformed _ cause => some cause.message
  | evaluation cause => some cause.message
  | configuration _ => none
  | io detail => some detail

end StatementError

/-- A named template. -/
structure Statement where
  name : Text
  template : Template
  deriving DecidableEq, Repr

structure RenderedStatement where
  name : Text
  text : Text
  deriving DecidableEq, Repr

namespace Statement

/-- Names the outcome of reading a template. -/
def ofParsed (name : Text) : Except SyntaxError Template → Except StatementError Statement
  | .ok template => .ok ⟨name, template⟩
  | .error cause => .error (.malformed name cause)

def parse (name source : Text) : Except StatementError Statement :=
  ofParsed name (Template.parse source)

def hasTemplates (statement : Statement) : Bool := !statement.template.isLiteral

/-- Renders a statement; the registry remembers the questions. -/
def apply {Context : Type} (statement : Statement) (registry : Registry Context)
    (context : Context) : Except StatementError RenderedStatement × Registry Context :=
  match statement.template.render registry context with
  | (.ok text, registry) => (.ok ⟨statement.name, text⟩, registry)
  | (.error cause, registry) => (.error (.evaluation cause), registry)

end Statement

end QueryTemplate
