import QueryTemplate.Proofs.Resolution

/-! What a rendering can learn from its resolver. It asks for the names of the template and for
no others, and it sees the first value of each answer alone. Two resolvers are compared by a
relation between their states, so that the comparison also covers answers that change. -/

set_option autoImplicit false

namespace QueryTemplate

/-- Answers that no tag can tell apart: the same error, or values that begin alike. -/
def Indistinct (left right : Except EvaluationError Values) : Prop :=
  left.map List.head? = right.map List.head?

namespace Values

variable {left right : Values}

theorem canonical_eq_of_head?_eq (same : left.head? = right.head?) :
    left.canonical = right.canonical := by
  rw [canonical, canonical, same]

theorem isTruthy_eq_of_head?_eq (same : left.head? = right.head?) :
    left.isTruthy = right.isTruthy := by
  rw [isTruthy, isTruthy, same]

theorem shown_eq_of_head?_eq (same : left.head? = right.head?) (escaped : Bool) :
    left.shown escaped = right.shown escaped := by
  rw [shown, shown, canonical_eq_of_head?_eq same]

end Values

/-! ## Two renderings side by side -/

section Comparison

variable {Left Right : Type} {related : Left → Right → Prop}

/-- Questions for the names of a list have indistinct answers in related states, and lead to
related states. -/
def Resolver.AgreesOn (names : List Text) (left : Resolver Left) (right : Resolver Right)
    (related : Left → Right → Prop) : Prop :=
  ∀ name ∈ names, ∀ leftState rightState, related leftState rightState →
    Indistinct (left name leftState).1 (right name rightState).1 ∧
      related (left name leftState).2 (right name rightState).2

theorem Resolver.AgreesOn.mono {names fewer : List Text} {left : Resolver Left}
    {right : Resolver Right} (agrees : left.AgreesOn names right related) (subset : fewer ⊆ names) :
    left.AgreesOn fewer right related :=
  fun name member => agrees name (subset member)

/-- The two outcomes of one question to each of two resolvers. -/
private theorem Resolver.AgreesOn.ask {names : List Text} {left : Resolver Left}
    {right : Resolver Right} (agrees : left.AgreesOn names right related) {name : Text}
    (member : name ∈ names) {leftState : Left} {rightState : Right}
    (states : related leftState rightState) :
    ∃ leftNext rightNext, related leftNext rightNext ∧
      ((∃ error, left name leftState = (.error error, leftNext) ∧
          right name rightState = (.error error, rightNext)) ∨
        ∃ leftValues rightValues : Values, left name leftState = (.ok leftValues, leftNext) ∧
          right name rightState = (.ok rightValues, rightNext) ∧
          leftValues.head? = rightValues.head?) := by
  obtain ⟨answers, next⟩ := agrees name member leftState rightState states
  rcases leftAsked : left name leftState with ⟨leftAnswer, leftNext⟩
  rcases rightAsked : right name rightState with ⟨rightAnswer, rightNext⟩
  rw [leftAsked, rightAsked] at answers next
  refine ⟨leftNext, rightNext, next, ?_⟩
  cases leftAnswer with
  | error leftError =>
    cases rightAnswer with
    | error rightError =>
      cases answers
      exact .inl ⟨leftError, rfl, rfl⟩
    | ok rightValues => cases answers
  | ok leftValues =>
    cases rightAnswer with
    | error rightError => cases answers
    | ok rightValues =>
      have heads : leftValues.head? = rightValues.head? := Except.ok.inj answers
      exact .inr ⟨leftValues, rightValues, rfl, rfl, heads⟩

structure Rendering.Alike (related : Left → Right → Prop) (left : Rendering Left)
    (right : Rendering Right) : Prop where
  output : left.output = right.output
  failure : left.failure? = right.failure?
  state : related left.state right.state

theorem Rendering.Alike.result {left : Rendering Left} {right : Rendering Right}
    (alike : left.Alike related right) :
    left.result = right.result := by
  rw [Rendering.result, Rendering.result, alike.failure, alike.output]

private theorem Rendering.Alike.cases {left : Rendering Left} {right : Rendering Right}
    (alike : left.Alike related right) :
    ∃ output failure? leftState rightState, left = ⟨output, leftState, failure?⟩ ∧
      right = ⟨output, rightState, failure?⟩ ∧ related leftState rightState := by
  obtain ⟨leftOutput, leftState, leftFailure⟩ := left
  obtain ⟨rightOutput, rightState, rightFailure⟩ := right
  obtain ⟨outputs, failures, states⟩ := alike
  cases outputs
  cases failures
  exact ⟨leftOutput, leftFailure, leftState, rightState, rfl, rfl, states⟩

namespace Template

theorem renderAfter_alike {left : Resolver Left} {right : Resolver Right} (t : Template)
    (agrees : left.AgreesOn t.names right related) (output : Text) {leftState : Left}
    {rightState : Right} (states : related leftState rightState) :
    (t.renderAfter left output leftState).Alike related
      (t.renderAfter right output rightState) := by
  induction t generalizing output leftState rightState with
  | nil => exact ⟨rfl, rfl, states⟩
  | literal text rest ih => exact ih agrees (output ++ text) states
  | slot name escaped rest ih =>
    have further := agrees.mono (List.subset_cons_self name rest.names)
    obtain ⟨leftNext, rightNext, next, ⟨error, leftAsked, rightAsked⟩ |
      ⟨leftValues, rightValues, leftAsked, rightAsked, heads⟩⟩ :=
        agrees.ask List.mem_cons_self states
    · simp only [renderAfter, leftAsked, rightAsked]
      exact ⟨rfl, rfl, next⟩
    · simp only [renderAfter, leftAsked, rightAsked, Values.shown_eq_of_head?_eq heads]
      exact ih further _ next
  | block name inverted body rest bodyIH restIH =>
    have inner := agrees.mono (List.subset_cons_of_subset name
      (List.subset_append_left body.names rest.names))
    have further := agrees.mono (List.subset_cons_of_subset name
      (List.subset_append_right body.names rest.names))
    obtain ⟨leftNext, rightNext, next, ⟨error, leftAsked, rightAsked⟩ |
      ⟨leftValues, rightValues, leftAsked, rightAsked, heads⟩⟩ :=
        agrees.ask List.mem_cons_self states
    · simp only [renderAfter, leftAsked, rightAsked]
      exact ⟨rfl, rfl, next⟩
    · simp only [renderAfter, leftAsked, rightAsked, Values.isTruthy_eq_of_head?_eq heads]
      by_cases entered : (rightValues.isTruthy != inverted) = true
      · simp only [entered, if_true]
        obtain ⟨written, failure, leftLast, rightLast, leftRan, rightRan, states⟩ :=
          (bodyIH inner output next).cases
        rw [leftRan, rightRan]
        cases failure with
        | none => exact restIH further written states
        | some error => exact ⟨rfl, rfl, states⟩
      · simp only [entered]
        exact restIH further output next

theorem renderBy_eq_of_agreesOn {left : Resolver Left} {right : Resolver Right} (t : Template)
    (agrees : left.AgreesOn t.names right related) {leftState : Left} {rightState : Right}
    (states : related leftState rightState) :
    (t.renderBy left leftState).1 = (t.renderBy right rightState).1 ∧
      related (t.renderBy left leftState).2 (t.renderBy right rightState).2 := by
  have alike := t.renderAfter_alike agrees [] states
  exact ⟨alike.result, alike.state⟩

theorem mem_bindNames (t : Template) (name : Text) : name ∈ t.bindNames ↔ name ∈ t.names :=
  List.mem_eraseDups

end Template

end Comparison

/-! ## Resolvers that agree -/

theorem Resolver.agreesOn_of_answers {Left Right : Type} {left : Resolver Left}
    {right : Resolver Right} {leftState : Left} {rightState : Right} {names : List Text}
    (same : ∀ name ∈ names, Indistinct (left name leftState).1 (right name rightState).1) :
    left.AgreesOn names right fun leftLater rightLater =>
      left.Answers leftLater (fun name => (left name leftState).1) ∧
        right.Answers rightLater (fun name => (right name rightState).1) := by
  rintro name member leftLater rightLater ⟨leftAnswers, rightAnswers⟩
  obtain ⟨leftNext, leftAsked, leftFurther⟩ := leftAnswers.ask name
  obtain ⟨rightNext, rightAsked, rightFurther⟩ := rightAnswers.ask name
  rw [leftAsked, rightAsked]
  exact ⟨same name member, leftFurther, rightFurther⟩

/-- Registries with the same registrations of all names but one. -/
def Registry.EqualBut {Context : Type} (name : Text) (left right : Registry Context) : Prop :=
  ∀ other ≠ name, left.lookup? other = right.lookup? other

theorem Registry.EqualBut.agreesOn {Context : Type} (context : Context) {names : List Text}
    {name : Text} (absent : name ∉ names) :
    (resolver context).AgreesOn names (resolver context) (EqualBut name) := by
  intro asked member left right equal
  have different : asked ≠ name := fun same => absent (same ▸ member)
  exact ⟨congrArg (Except.map List.head?) (resolve_congr (equal asked different) context),
    fun other otherDifferent =>
      lookup?_resolve_congr (equal other otherDifferent) context asked⟩

namespace Template

private theorem renderBy_eq_of_steady {Left Right : Type} (t : Template) {left : Resolver Left}
    {right : Resolver Right} {leftState : Left} {rightState : Right}
    (leftSteady : left.Steady leftState) (rightSteady : right.Steady rightState)
    (same : ∀ name ∈ t.bindNames,
      Indistinct (left name leftState).1 (right name rightState).1) :
    (t.renderBy left leftState).1 = (t.renderBy right rightState).1 := by
  have agrees := Resolver.agreesOn_of_answers fun name member =>
    same name ((t.mem_bindNames name).mpr member)
  exact (t.renderBy_eq_of_agreesOn agrees ⟨leftSteady, rightSteady⟩).1

/-- A rendering depends on the errors and the first values of the binds that the template names,
and on nothing else: it is the same for any two resolvers, and for any two registries in any two
contexts, whose answers for these names are indistinct. If answers may change from question to
question, other names still count for nothing, neither for the text nor for the state at the
end, and registering them changes no text. -/
theorem render_closed (t : Template) :
    (∀ {Left Right : Type} (left : Resolver Left) (leftState : Left) (right : Resolver Right)
      (rightState : Right), left.Steady leftState → right.Steady rightState →
      (∀ name ∈ t.bindNames, Indistinct (left name leftState).1 (right name rightState).1) →
      (t.renderBy left leftState).1 = (t.renderBy right rightState).1) ∧
    (∀ {Left Right : Type} (left : Registry Left) (leftContext : Left) (right : Registry Right)
      (rightContext : Right), left.IsContextual → right.IsContextual →
      (∀ name ∈ t.bindNames,
        Indistinct (left.resolve leftContext name).1 (right.resolve rightContext name).1) →
      (t.render left leftContext).1 = (t.render right rightContext).1) ∧
    (∀ {State : Type} (left right : Resolver State) (state : State),
      (∀ name ∈ t.bindNames, ∀ later, left name later = right name later) →
      t.renderBy left state = t.renderBy right state) ∧
    (∀ {Context : Type} (registry : Registry Context) (context : Context) (name : Text)
      (parameter : Parameter Context), name ∉ t.bindNames →
      (t.render (registry.register name parameter) context).1 =
        (t.render registry context).1) := by
  refine ⟨?_, ?_, ?_, ?_⟩
  · intro Left Right left leftState right rightState leftSteady rightSteady same
    exact t.renderBy_eq_of_steady leftSteady rightSteady same
  · intro Left Right left leftContext right rightContext leftContextual rightContextual same
    exact t.renderBy_eq_of_steady (leftContextual.steady leftContext)
      (rightContextual.steady rightContext) same
  · intro State left right state same
    have agrees : left.AgreesOn t.names right fun leftLater rightLater =>
        leftLater = rightLater := by
      rintro name member later _ rfl
      have equal := same name ((t.mem_bindNames name).mpr member) later
      rw [equal]
      exact ⟨rfl, rfl⟩
    obtain ⟨results, states⟩ := t.renderBy_eq_of_agreesOn agrees (Eq.refl state)
    exact Prod.ext results states
  · intro Context registry context name parameter absent
    have outside : name ∉ t.names := fun member => absent ((t.mem_bindNames name).mpr member)
    have equal : Registry.EqualBut name (registry.register name parameter) registry := by
      intro other different
      rw [Registry.lookup?_register, if_neg different.symm]
    exact (t.renderBy_eq_of_agreesOn (Registry.EqualBut.agreesOn context outside) equal).1

theorem render_closed_greeting :
    let t := slot ['n'] true (block ['t'] false (slot ['t'] false nil) nil)
    let small : Registry Unit := Registry.register {} ['n'] (.single (.boolean true))
    let large : Registry Int64 := Registry.register
      (Registry.register {} ['n'] (.ofContext [] fun count => .ok [.boolean true, .integer count]))
      ['x'] (.failing ['x'] (.expression ['x'] []))
    small.IsContextual ∧ large.IsContextual ∧
      (t.render small ()).1 = .ok "true".toList ∧ (t.render large 3).1 = .ok "true".toList := by
  intro t small large
  have smallContextual : small.IsContextual :=
    Registry.isContextual_empty.register _ fun _ _ _ => rfl
  have largeContextual : large.IsContextual :=
    (Registry.isContextual_empty.register _ fun _ _ _ => rfl).register _ fun _ _ _ => rfl
  have names : t.bindNames = [['n'], ['t']] := by decide
  have same := (render_closed t).2.1 small () large 3 smallContextual largeContextual (by
    rw [names, List.forall_mem_cons, List.forall_mem_singleton]
    exact ⟨rfl, rfl⟩)
  have text : (t.render small ()).1 = .ok "true".toList := rfl
  exact ⟨smallContextual, largeContextual, text, same ▸ text⟩

end Template

end QueryTemplate
