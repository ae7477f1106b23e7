import QueryTemplate.Bind.Registry
import QueryTemplate.Template.Basic
import QueryTemplate.Text.Escape

/-!
# Rendering

A template is rendered from left to right, each tag asking for its bind once. What is written
stays written: after a failure the output holds all that stood before the tag that failed.

The renderer knows binds only through a resolver, which may keep a state of its own.
-/

set_option autoImplicit false

namespace QueryTemplate

/-- Evaluates binds by name, with a state that each evaluation may change. -/
abbrev Resolver (State : Type) := Text → State → Except EvaluationError Values × State

/-- What rendering comes to: the text written, the state of the resolver, and the error at which
it stopped, if it did. -/
structure Rendering (State : Type) where
  output : Text
  state : State
  failure? : Option EvaluationError := none

namespace Rendering

variable {State : Type}

/-- The text, if the whole template was rendered, or the error. -/
def result (rendering : Rendering State) : Except EvaluationError Text :=
  match rendering.failure? with
  | none => .ok rendering.output
  | some error => .error error

end Rendering

def Registry.resolver {Context : Type} (context : Context) : Resolver (Registry Context) :=
  fun name registry => registry.resolve context name

def Values.shown (escaped : Bool) (values : Values) : Text :=
  if escaped then Text.escape values.canonical else values.canonical

namespace Template

variable {State : Type}

/-- Renders a template behind an output. -/
def renderAfter (resolve : Resolver State) : Template → Text → State → Rendering State
  | nil, output, state => ⟨output, state, none⟩
  | literal text rest, output, state => rest.renderAfter resolve (output ++ text) state
  | slot name escaped rest, output, state =>
    match resolve name state with
    | (.error error, state) => ⟨output, state, some error⟩
    | (.ok values, state) =>
      rest.renderAfter resolve (output ++ values.shown escaped) state
  | block name inverted body rest, output, state =>
    match resolve name state with
    | (.error error, state) => ⟨output, state, some error⟩
    | (.ok values, state) =>
      if values.isTruthy != inverted then
        match body.renderAfter resolve output state with
        | ⟨output, state, some error⟩ => ⟨output, state, some error⟩
        | ⟨output, state, none⟩ => rest.renderAfter resolve output state
      else rest.renderAfter resolve output state

/-- The text of a template, or the first error of a bind, and the state of the resolver after all
questions. -/
def renderBy (resolve : Resolver State) (t : Template) (state : State) :
    Except EvaluationError Text × State :=
  let rendering := t.renderAfter resolve [] state
  (rendering.result, rendering.state)

/-- The text of a template in a context, or the first error of a bind, and the registry that
remembers all questions. -/
def render {Context : Type} (t : Template) (registry : Registry Context) (context : Context) :
    Except EvaluationError Text × Registry Context :=
  t.renderBy (Registry.resolver context) registry

/-- Renders a template several times, one registry remembering the questions of all of them. -/
def renderTimes {Context : Type} (t : Template) (registry : Registry Context)
    (context : Context) : Nat → List (Except EvaluationError Text)
  | 0 => []
  | times + 1 =>
    let (result, registry) := t.render registry context
    result :: t.renderTimes registry context times

end Template

end QueryTemplate
