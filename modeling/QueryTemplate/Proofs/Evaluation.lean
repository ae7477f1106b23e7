import QueryTemplate.Proofs.Resolution

/-! What a template comes to when every bind has one answer: a text or an error, with no state and
no output in between. Rendering by a resolver with steady answers is this evaluation. -/

set_option autoImplicit false

namespace QueryTemplate

namespace Rendering

variable {State : Type} {rendering : Rendering State}

theorem eq_of_result_eq_ok {text : Text} (finished : rendering.result = .ok text) :
    rendering = ⟨text, rendering.state, none⟩ := by
  obtain ⟨output, state, failure⟩ := rendering
  cases failure with
  | none =>
    cases finished
    rfl
  | some error => cases finished

theorem eq_of_result_eq_error {error : EvaluationError}
    (stopped : rendering.result = .error error) :
    rendering = ⟨rendering.output, rendering.state, some error⟩ := by
  obtain ⟨output, state, failure⟩ := rendering
  cases failure with
  | none => cases stopped
  | some raised =>
    cases stopped
    rfl

end Rendering

namespace Template

/-- The text of a template under fixed answers, or the first error in the order of the tags. -/
def evaluate (answer : Text → Except EvaluationError Values) :
    Template → Except EvaluationError Text
  | nil => .ok []
  | literal text rest => (rest.evaluate answer).map fun tail => text ++ tail
  | slot name escaped rest =>
    (answer name).bind fun values =>
      (rest.evaluate answer).map fun tail => values.shown escaped ++ tail
  | block name inverted body rest =>
    (answer name).bind fun values =>
      if values.isTruthy != inverted then
        (body.evaluate answer).bind fun inner =>
          (rest.evaluate answer).map fun tail => inner ++ tail
      else rest.evaluate answer

section Success

variable {answer : Text → Except EvaluationError Values} {name text : Text}

theorem evaluate_literal_eq_ok {own : Text} {rest : Template}
    (evaluated : (literal own rest).evaluate answer = .ok text) :
    ∃ tail, rest.evaluate answer = .ok tail ∧ text = own ++ tail := by
  rw [evaluate] at evaluated
  cases further : rest.evaluate answer with
  | error error =>
    rw [further] at evaluated
    cases evaluated
  | ok tail =>
    rw [further] at evaluated
    cases evaluated
    exact ⟨tail, rfl, rfl⟩

theorem evaluate_slot_eq_ok {escaped : Bool} {rest : Template}
    (evaluated : (slot name escaped rest).evaluate answer = .ok text) :
    ∃ values tail, answer name = .ok values ∧ rest.evaluate answer = .ok tail ∧
      text = values.shown escaped ++ tail := by
  rw [evaluate] at evaluated
  cases answered : answer name with
  | error error =>
    rw [answered] at evaluated
    cases evaluated
  | ok values =>
    rw [answered] at evaluated
    obtain ⟨tail, further, rfl⟩ :=
      evaluate_literal_eq_ok evaluated
    exact ⟨values, tail, rfl, further, rfl⟩

theorem evaluate_block_eq_ok {inverted : Bool} {body rest : Template}
    (evaluated : (block name inverted body rest).evaluate answer = .ok text) :
    ∃ values inner tail, answer name = .ok values ∧ rest.evaluate answer = .ok tail ∧
      text = inner ++ tail ∧
      if values.isTruthy != inverted then body.evaluate answer = .ok inner else inner = [] := by
  rw [evaluate] at evaluated
  cases answered : answer name with
  | error error =>
    rw [answered] at evaluated
    cases evaluated
  | ok values =>
    rw [answered] at evaluated
    simp only [Except.bind] at evaluated
    split at evaluated
    · rename_i entered
      cases ran : body.evaluate answer with
      | error error =>
        rw [ran] at evaluated
        cases evaluated
      | ok inner =>
        rw [ran] at evaluated
        obtain ⟨tail, further, rfl⟩ := evaluate_literal_eq_ok evaluated
        exact ⟨values, inner, tail, rfl, further, rfl, by rw [if_pos entered]⟩
    · rename_i skipped
      exact ⟨values, [], text, rfl, evaluated, rfl, by rw [if_neg skipped]⟩

end Success

private theorem map_append_append (result : Except EvaluationError Text) (output text : Text) :
    result.map (fun tail => output ++ text ++ tail) =
      (result.map fun tail => text ++ tail).map fun tail => output ++ tail := by
  cases result with
  | error error => rfl
  | ok tail => exact congrArg Except.ok (List.append_assoc output text tail)

variable {State : Type} {resolve : Resolver State}
  {answer : Text → Except EvaluationError Values}

theorem renderAfter_of_answers (t : Template) (output : Text) {state : State}
    (answers : resolve.Answers state answer) :
    (t.renderAfter resolve output state).result =
        (t.evaluate answer).map (fun text => output ++ text) ∧
      resolve.Answers (t.renderAfter resolve output state).state answer := by
  induction t generalizing output state with
  | nil =>
    refine ⟨?_, answers⟩
    exact congrArg Except.ok (List.append_nil output).symm
  | literal text rest ih =>
    obtain ⟨result, later⟩ := ih (output ++ text) answers
    exact ⟨result.trans (map_append_append _ output text), later⟩
  | slot name escaped rest ih =>
    obtain ⟨nextState, asked, next⟩ := answers.ask name
    simp only [renderAfter, evaluate, asked]
    cases answer name with
    | error error => exact ⟨rfl, next⟩
    | ok values =>
      obtain ⟨result, later⟩ := ih (output ++ values.shown escaped) next
      exact ⟨result.trans (map_append_append _ output _), later⟩
  | block name inverted body rest bodyIH restIH =>
    obtain ⟨nextState, asked, next⟩ := answers.ask name
    simp only [renderAfter, evaluate, asked]
    cases answer name with
    | error error => exact ⟨rfl, next⟩
    | ok values =>
      simp only [Except.bind]
      by_cases entered : (values.isTruthy != inverted) = true
      · simp only [entered, if_true]
        obtain ⟨result, later⟩ := bodyIH output next
        cases inner : body.evaluate answer with
        | error error =>
          rw [inner] at result
          rw [Rendering.eq_of_result_eq_error result]
          exact ⟨rfl, later⟩
        | ok text =>
          rw [inner] at result
          rw [Rendering.eq_of_result_eq_ok result]
          obtain ⟨result, later⟩ := restIH (output ++ text) later
          exact ⟨result.trans (map_append_append _ output text), later⟩
      · simp only [entered]
        exact restIH output next

theorem renderBy_of_answers (t : Template) {state : State}
    (answers : resolve.Answers state answer) :
    (t.renderBy resolve state).1 = t.evaluate answer := by
  refine (t.renderAfter_of_answers [] answers).1.trans ?_
  cases t.evaluate answer with
  | error error => rfl
  | ok text => rfl

end Template

end QueryTemplate
