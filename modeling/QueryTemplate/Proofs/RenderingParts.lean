import QueryTemplate.Template.Render

/-! Renderings in parts. What a template writes does not depend on what was written before it, and
a template that consists of two parts is rendered by its first part and then, if that has not
failed, by its second part from the state in which the first has left the resolver. -/

set_option autoImplicit false

namespace QueryTemplate

variable {State : Type}

namespace Rendering

/-- Goes on behind a rendering, unless it has failed. -/
def andThen (rendering : Rendering State) (next : Text → State → Rendering State) :
    Rendering State :=
  match rendering.failure? with
  | none => next rendering.output rendering.state
  | some _ => rendering

/-- A rendering with a text in front of its output. -/
def behind (front : Text) (rendering : Rendering State) : Rendering State :=
  { rendering with output := front ++ rendering.output }

theorem andThen_assoc (rendering : Rendering State) (next last : Text → State → Rendering State) :
    (rendering.andThen next).andThen last =
      rendering.andThen fun output state => (next output state).andThen last := by
  obtain ⟨output, state, failure⟩ := rendering
  cases failure <;> rfl

theorem behind_andThen {front : Text} {rendering : Rendering State}
    {next : Text → State → Rendering State}
    (further : ∀ output state, next (front ++ output) state = (next output state).behind front) :
    (rendering.behind front).andThen next = (rendering.andThen next).behind front := by
  obtain ⟨output, state, failure⟩ := rendering
  cases failure with
  | none => exact further output state
  | some error => rfl

end Rendering

namespace Template

variable (resolve : Resolver State)

/-- The body of a block, if its bind lets it be entered, and what follows the block. -/
theorem renderAfter_block (name : Text) (inverted : Bool) (body rest : Template) (output : Text)
    (state : State) :
    (block name inverted body rest).renderAfter resolve output state =
      match resolve name state with
      | (.error error, next) => ⟨output, next, some error⟩
      | (.ok values, next) =>
        (if values.isTruthy != inverted then body.renderAfter resolve output next
          else ⟨output, next, none⟩).andThen (rest.renderAfter resolve) := by
  rw [renderAfter]
  rcases resolve name state with ⟨error | values, next⟩
  · rfl
  · by_cases entered : (values.isTruthy != inverted) = true
    · simp only [if_pos entered]
      rcases body.renderAfter resolve output next with ⟨written, last, _ | error⟩ <;> rfl
    · simp only [if_neg entered]
      rfl

theorem renderAfter_append (s t : Template) (output : Text) (state : State) :
    (s ++ t).renderAfter resolve output state =
      (s.renderAfter resolve output state).andThen (t.renderAfter resolve) := by
  induction s generalizing output state with
  | nil => rfl
  | literal text rest ih => exact ih (output ++ text) state
  | slot name escaped rest ih =>
    rw [slot_append, renderAfter, renderAfter]
    rcases resolve name state with ⟨error | values, next⟩
    · rfl
    · exact ih (output ++ values.shown escaped) next
  | block name inverted body rest _ ih =>
    rw [block_append, renderAfter_block, renderAfter_block]
    rcases resolve name state with ⟨error | values, next⟩
    · rfl
    · simp only [Rendering.andThen_assoc]
      congr 1
      funext written last
      exact ih written last

theorem renderAfter_behind (t : Template) (front output : Text) (state : State) :
    t.renderAfter resolve (front ++ output) state =
      (t.renderAfter resolve output state).behind front := by
  induction t generalizing output state with
  | nil => rfl
  | literal text rest ih =>
    rw [renderAfter, renderAfter, List.append_assoc]
    exact ih (output ++ text) state
  | slot name escaped rest ih =>
    rw [renderAfter, renderAfter]
    rcases resolve name state with ⟨error | values, next⟩
    · rfl
    · simp only [List.append_assoc]
      exact ih (output ++ values.shown escaped) next
  | block name inverted body rest bodyIH restIH =>
    rw [renderAfter_block, renderAfter_block]
    rcases resolve name state with ⟨error | values, next⟩
    · rfl
    · simp only
      rw [← Rendering.behind_andThen restIH]
      split
      · rw [bodyIH]
      · rfl

/-- Renders one template and then another one, which is not looked at if the first fails. -/
def renderBoth (s t : Template) (state : State) : Except EvaluationError Text × State :=
  match s.renderBy resolve state with
  | (.error error, next) => (.error error, next)
  | (.ok front, next) =>
    let (result, last) := t.renderBy resolve next
    (result.map fun back => front ++ back, last)

theorem renderBy_append (s t : Template) (state : State) :
    (s ++ t).renderBy resolve state = renderBoth resolve s t state := by
  unfold renderBoth renderBy
  rw [renderAfter_append]
  rcases s.renderAfter resolve [] state with ⟨output, next, _ | error⟩
  · have further := t.renderAfter_behind resolve output [] next
    rw [List.append_nil] at further
    simp only [Rendering.andThen, further, Rendering.result, Rendering.behind]
    rcases t.renderAfter resolve [] next with ⟨written, last, _ | error⟩ <;> rfl
  · rfl

end Template

end QueryTemplate
