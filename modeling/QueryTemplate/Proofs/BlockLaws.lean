import QueryTemplate.Proofs.Evaluation

/-! Laws of blocks. Templates that come to the same text or error under the answers of a resolver
can be exchanged at any place of a larger template; the laws say which nodes around one bind are
exchangeable like that, given the values of the bind. -/

set_option autoImplicit false

namespace QueryTemplate

namespace Values

variable {values : Values}

/-- A truth value alone can be falsy and still be written. -/
theorem canonical_eq_nil_of_falsy (falsy : values.isTruthy = false)
    (notFalse : values.head? ≠ some (.boolean false)) : values.canonical = [] := by
  cases values with
  | nil => rfl
  | cons value others =>
    have own : value.isTruthy = false := by simpa [isTruthy] using falsy
    rcases Value.isTruthy_eq_false_iff.mp own with rfl | empty
    · exact absurd rfl notFalse
    · exact empty

theorem shown_eq_nil_of_falsy (falsy : values.isTruthy = false)
    (notFalse : values.head? ≠ some (.boolean false)) (escaped : Bool) :
    values.shown escaped = [] := by
  have empty := canonical_eq_nil_of_falsy falsy notFalse
  cases escaped with
  | false => exact empty
  | true => simp only [shown, if_true, empty]; rfl

theorem isTruthy_of_false (isFalse : values.head? = some (.boolean false)) :
    values.isTruthy = false := by
  simp only [isTruthy, isFalse, Option.any_some, Value.isTruthy]

theorem shown_of_false (isFalse : values.head? = some (.boolean false)) (escaped : Bool) :
    values.shown escaped = "false".toList := by
  cases escaped <;> simp only [shown, canonical, isFalse] <;> rfl

end Values

namespace Template

/-! ## Exchange at any place -/

/-- A template without some of its nodes: what stands before and behind their place, and the blocks
around it. -/
inductive Surrounding where
  | level (before after : Template)
  | inBlock (before : Template) (name : Text) (inverted : Bool) (inner : Surrounding)
      (after : Template)

namespace Surrounding

/-- The template with nodes put into the place. -/
def around : Surrounding → Template → Template
  | level before after, nodes => before ++ (nodes ++ after)
  | inBlock before name inverted inner after, nodes =>
    before ++ block name inverted (inner.around nodes) after

end Surrounding

section Evaluation

variable {answer : Text → Except EvaluationError Values} {name : Text} {values : Values}

theorem evaluate_append (s t : Template) :
    (s ++ t).evaluate answer =
      (s.evaluate answer).bind fun front => (t.evaluate answer).map fun back => front ++ back := by
  have joined (result : Except EvaluationError Text) (text inner : Text) :
      result.map (fun tail => text ++ inner ++ tail) =
        (result.map fun tail => inner ++ tail).map fun tail => text ++ tail := by
    cases result <;> simp [Except.map]
  induction s with
  | nil => cases tail : t.evaluate answer <;> simp [evaluate, Except.bind, Except.map, tail]
  | literal text rest ih =>
    simp only [literal_append, evaluate, ih]
    cases rest.evaluate answer with
    | error error => rfl
    | ok front => exact (joined _ text front).symm
  | slot own escaped rest ih =>
    simp only [slot_append, evaluate, ih]
    cases answer own with
    | error error => rfl
    | ok found =>
      cases rest.evaluate answer with
      | error error => rfl
      | ok front => exact (joined _ (found.shown escaped) front).symm
  | block own inverted body rest _ ih =>
    simp only [block_append, evaluate, ih]
    cases answer own with
    | error error => rfl
    | ok found =>
      simp only [Except.bind]
      split
      · cases body.evaluate answer with
        | error error => rfl
        | ok inner =>
          cases rest.evaluate answer with
          | error error => rfl
          | ok front => exact (joined _ inner front).symm
      · rfl

theorem evaluate_append_congr {s s' t t' : Template}
    (front : s.evaluate answer = s'.evaluate answer)
    (back : t.evaluate answer = t'.evaluate answer) :
    (s ++ t).evaluate answer = (s' ++ t').evaluate answer := by
  simp only [evaluate_append, front, back]

theorem evaluate_around_congr {s t : Template} (place : Surrounding)
    (same : s.evaluate answer = t.evaluate answer) :
    (place.around s).evaluate answer = (place.around t).evaluate answer := by
  induction place with
  | level before after => exact evaluate_append_congr rfl (evaluate_append_congr same rfl)
  | inBlock before name inverted inner after ih =>
    refine evaluate_append_congr rfl ?_
    simp only [evaluate, ih]

/-! ## Blocks of one bind -/

/-- A block whose bind is known to have values is its body, or nothing at all. -/
theorem evaluate_block_of_answer (answered : answer name = .ok values) (inverted : Bool)
    (body rest : Template) :
    (block name inverted body rest).evaluate answer =
      ((if values.isTruthy != inverted then body else nil) ++ rest).evaluate answer := by
  simp only [evaluate, answered, Except.bind]
  split
  · exact (evaluate_append body rest).symm
  · rfl

theorem evaluate_slot_of_shown {escaped : Bool} {text : Text} (answered : answer name = .ok values)
    (shown : values.shown escaped = text) :
    (slot name escaped nil).evaluate answer = .ok text := by
  simp only [evaluate, answered, Except.bind, Except.map, shown, List.append_nil]

/-- Nodes that are exchangeable where a bind has some values. -/
inductive BlockLaw (name : Text) (values : Values) : Template → Template → Prop where
  /-- One of the two blocks is entered. -/
  | either (body : Template) :
      BlockLaw name values (block name false body (block name true body nil)) body
  /-- A block inside of a block of the same kind is entered whenever the outer one is. -/
  | again (inverted : Bool) (body : Template) :
      BlockLaw name values (block name inverted (block name inverted body nil) nil)
        (block name inverted body nil)
  /-- A block inside of a block of the other kind is never entered. -/
  | never (inverted : Bool) (body : Template) :
      BlockLaw name values (block name inverted (block name (!inverted) body nil) nil) nil
  /-- A value that is not truthy is not written anyway. -/
  | guarded (escaped : Bool) : values.head? ≠ some (.boolean false) →
      BlockLaw name values (block name false (slot name escaped nil) nil) (slot name escaped nil)
  /-- The truth value `false` is written, but not behind a guard. -/
  | guardedFalse (escaped : Bool) : values.head? = some (.boolean false) →
      BlockLaw name values (block name false (slot name escaped nil) nil) nil
  | invertedFalse (escaped : Bool) : values.head? = some (.boolean false) →
      BlockLaw name values (block name true (slot name escaped nil) nil)
        (literal "false".toList nil)

theorem BlockLaw.evaluate_eq {s t : Template} (law : BlockLaw name values s t)
    (answered : answer name = .ok values) : s.evaluate answer = t.evaluate answer := by
  have opened := evaluate_block_of_answer answered
  cases law with
  | either =>
    cases truth : values.isTruthy with
    | true =>
      have skipped := opened true t nil
      have kept := evaluate_append_congr (rfl : t.evaluate answer = _) skipped
      simpa [opened false t, truth] using kept
    | false =>
      simp [opened, truth]
  | again inverted body =>
    have inner := opened inverted body nil
    cases entered : values.isTruthy != inverted <;> simp [opened, entered]
  | never inverted body =>
    cases truth : values.isTruthy <;> cases inverted <;> simp [opened, truth]
  | guarded escaped notFalse =>
    cases truth : values.isTruthy with
    | true => simp [opened, truth]
    | false =>
      have nothing := Values.shown_eq_nil_of_falsy truth notFalse escaped
      rw [opened, evaluate_slot_of_shown answered nothing]
      simp [truth, evaluate]
  | guardedFalse escaped isFalse =>
    simp [opened, Values.isTruthy_of_false isFalse]
  | invertedFalse escaped isFalse =>
    have written := evaluate_slot_of_shown answered (Values.shown_of_false isFalse escaped)
    have entered : (values.isTruthy != true) = true := by
      simp [Values.isTruthy_of_false isFalse]
    simp only [opened, entered, if_true, append_nil, written]
    rfl

end Evaluation

/-- Nodes that a law relates can be exchanged at any place of a template: the text or the error of
the rendering stays the same, for any resolver with steady answers and for any registry in any
context, if the bind of the law has the values. -/
theorem render_around_of_blockLaw {name : Text} {values : Values} {s t : Template}
    (law : BlockLaw name values s t) (place : Surrounding) :
    (∀ {State : Type} (resolve : Resolver State) (state : State), resolve.Steady state →
      (resolve name state).1 = .ok values →
      ((place.around s).renderBy resolve state).1 =
        ((place.around t).renderBy resolve state).1) ∧
    (∀ {Context : Type} (registry : Registry Context) (context : Context),
      registry.IsContextual → (registry.resolve context name).1 = .ok values →
      ((place.around s).render registry context).1 =
        ((place.around t).render registry context).1) := by
  have exchanged {State : Type} (resolve : Resolver State) (state : State)
      (steady : resolve.Steady state) (answered : (resolve name state).1 = .ok values) :
      ((place.around s).renderBy resolve state).1 =
        ((place.around t).renderBy resolve state).1 := by
    simp only [renderBy_of_answers _ steady]
    exact evaluate_around_congr place (law.evaluate_eq answered)
  refine ⟨exchanged, ?_⟩
  intro Context registry context contextual answered
  exact exchanged (Registry.resolver context) registry (contextual.steady context) answered

/-- A truth value behind an inverted guard, inside of a block of another bind. -/
theorem render_around_of_blockLaw_false :
    let place : Surrounding :=
      .inBlock (literal ['x'] nil) ['t'] false (.level nil (slot ['m'] true nil)) nil
    let guarded := block ['n'] true (slot ['n'] true nil) nil
    let registry : Registry Unit := Registry.register
      (Registry.register {} ['n'] (.single (.boolean false))) ['t'] (.single (.text ['t']))
    registry.IsContextual ∧ (registry.resolve () ['n']).1 = .ok [.boolean false] ∧
      ((place.around guarded).render registry ()).1 = .ok "xfalse".toList ∧
      ((place.around guarded).render registry ()).1 =
        ((place.around (literal "false".toList nil)).render registry ()).1 := by
  intro place guarded registry
  have contextual : registry.IsContextual :=
    (Registry.isContextual_empty.register _ fun _ _ _ => rfl).register _ fun _ _ _ => rfl
  have answered : (registry.resolve () ['n']).1 = .ok [.boolean false] := rfl
  have law : BlockLaw ['n'] [.boolean false] guarded (literal "false".toList nil) :=
    .invertedFalse true rfl
  exact ⟨contextual, answered, rfl,
    (render_around_of_blockLaw law place).2 registry () contextual answered⟩

end Template

end QueryTemplate
