import Mathlib.Data.List.Induction
import QueryTemplate.Template.Render

/-! Resolvers whose answers a rendering cannot change, and the registries that are such resolvers.
A registry knows what was registered last under a name. It remembers the questions to its
parameters, so its state changes with every question; its answers stay the same if no parameter
looks at what it was asked before. -/

set_option autoImplicit false

namespace QueryTemplate

namespace Resolver

variable {State : Type}

/-- The state of a resolver after it was asked for names, in their order. -/
def after (resolve : Resolver State) (asked : List Text) (state : State) : State :=
  asked.foldl (fun state name => (resolve name state).2) state

/-- From a state on, a resolver gives the answers of a function, whatever it was asked before. -/
def Answers (resolve : Resolver State) (state : State)
    (answer : Text → Except EvaluationError Values) : Prop :=
  ∀ asked name, (resolve name (resolve.after asked state)).1 = answer name

/-- From a state on, no answer depends on what was asked before. -/
def Steady (resolve : Resolver State) (state : State) : Prop :=
  resolve.Answers state fun name => (resolve name state).1

theorem Answers.ask {resolve : Resolver State} {state : State}
    {answer : Text → Except EvaluationError Values} (answers : resolve.Answers state answer)
    (name : Text) :
    ∃ next, resolve name state = (answer name, next) ∧ resolve.Answers next answer :=
  ⟨(resolve name state).2, Prod.ext (answers [] name) rfl, fun asked => answers (name :: asked)⟩

end Resolver

/-! ## Registries -/

/-- The answers of a parameter do not depend on what it was asked before. -/
def Parameter.IsContextual {Context : Type} (parameter : Parameter Context) : Prop :=
  ∀ earlier later context, parameter.answer earlier context = parameter.answer later context

namespace Registry

variable {Context : Type}

def IsContextual (registry : Registry Context) : Prop :=
  ∀ registration ∈ registry.registrations, registration.parameter.IsContextual

theorem isContextual_empty : ({} : Registry Context).IsContextual := by
  intro registration member
  cases member

theorem IsContextual.register {registry : Registry Context} (contextual : registry.IsContextual)
    (name : Text) {parameter : Parameter Context} (alike : parameter.IsContextual) :
    (registry.register name parameter).IsContextual := by
  intro registration member
  rcases List.mem_append.mp member with kept | added
  · exact contextual registration (List.mem_filter.mp kept).1
  · rw [List.mem_singleton.mp added]
    exact alike

theorem key_of_lookup? {registry : Registry Context} {name : Text}
    {found : Registration Context} (known : registry.lookup? name = some found) :
    found.key = name := by
  simpa using List.find?_some known

/-- Of everything that is registered under a name, the last is found, and was not asked yet. -/
theorem lookup?_foldl_register {Item : Type} (key : Item → Text)
    (parameter : Item → Parameter Context) (items : List Item) (name : Text) :
    (items.foldl (fun registry item => registry.register (key item) (parameter item))
        ({} : Registry Context)).lookup? name =
      (items.reverse.find? fun item => key item == name).map fun item =>
        ⟨key item, parameter item, []⟩ := by
  -- From the end on, as a registration decides over those before it.
  induction items using List.reverseRecOn with
  | nil => rfl
  | append_singleton items last ih =>
    rw [List.foldl_append, List.foldl_cons, List.foldl_nil, lookup?_register, List.reverse_append,
      List.reverse_singleton, List.singleton_append, List.find?_cons, ih]
    by_cases same : key last = name
    · simp [same]
    · rw [if_neg same, beq_eq_false_iff_ne.mpr same]

/-- Registries that know the same of a name answer to it alike. -/
theorem resolve_congr {left right : Registry Context} {name : Text}
    (same : left.lookup? name = right.lookup? name) (context : Context) :
    (left.resolve context name).1 = (right.resolve context name).1 := by
  unfold resolve
  rw [same]
  cases right.lookup? name <;> rfl

/-- The parameter that was asked remembers the question, and nothing else changes. -/
theorem lookup?_resolve (registry : Registry Context) (context : Context) (name other : Text) :
    (registry.resolve context name).2.lookup? other =
      (registry.lookup? other).map (Registration.asked context name) := by
  unfold resolve
  cases found : registry.lookup? name with
  | none =>
    cases known : registry.lookup? other with
    | none => rfl
    | some registration =>
      have key : registration.key = other := key_of_lookup? known
      have different : registration.key ≠ name := by
        intro same
        rw [← key, same, found] at known
        cases known
      simp [Registration.asked, different]
  | some registration =>
    simp only [lookup?, List.find?_map, Function.comp_def, Registration.key_asked]

theorem lookup?_resolve_congr {left right : Registry Context} {other : Text}
    (same : left.lookup? other = right.lookup? other) (context : Context) (name : Text) :
    (left.resolve context name).2.lookup? other = (right.resolve context name).2.lookup? other := by
  rw [lookup?_resolve, lookup?_resolve, same]

theorem parameter_lookup?_after (registry : Registry Context) (context : Context)
    (asked : List Text) (name : Text) :
    ((((resolver context).after asked registry).lookup? name).map fun found => found.parameter) =
      (registry.lookup? name).map fun found => found.parameter := by
  induction asked generalizing registry with
  | nil => rfl
  | cons first asked ih =>
    have same : ∀ registration : Registration Context,
        (registration.asked context first).parameter = registration.parameter := by
      intro registration
      unfold Registration.asked
      split <;> rfl
    rw [Resolver.after, List.foldl_cons]
    refine (ih (registry.resolve context first).2).trans ?_
    rw [lookup?_resolve, Option.map_map]
    congr 1
    funext registration
    exact same registration

/-- Parameters that look at nothing but the context give the same answers all the time. -/
theorem IsContextual.steady {registry : Registry Context} (contextual : registry.IsContextual)
    (context : Context) : (resolver context).Steady registry := by
  intro asked name
  have same := parameter_lookup?_after registry context asked name
  show (((resolver context).after asked registry).resolve context name).1 =
    (registry.resolve context name).1
  unfold resolve
  cases known : registry.lookup? name with
  | none =>
    rw [known, Option.map_none, Option.map_eq_none_iff] at same
    rw [same]
  | some registration =>
    rw [known, Option.map_some, Option.map_eq_some_iff] at same
    obtain ⟨current, found, parameter⟩ := same
    rw [found]
    simp only [parameter]
    exact contextual registration (List.mem_of_find?_eq_some known) _ _ context

end Registry

end QueryTemplate
