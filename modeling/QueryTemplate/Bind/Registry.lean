import QueryTemplate.Bind.EvaluationError
import QueryTemplate.Text.Quoted
import QueryTemplate.Value.Basic

/-!
# Binds and their registry

A parameter answers with values when it is asked in a context. It may keep something of what it was
asked before, so a registry remembers for each of its parameters the contexts that it was asked in.

A name that is not registered stands for no values at all.

Main statements: registering a parameter changes the look-up of its name and of no other
(`lookup?_register`).
-/

set_option autoImplicit false

namespace QueryTemplate

/-- What a bind is evaluated by. `Context` is what it is asked in. -/
structure Parameter (Context : Type) where
  /-- The name that the parameter itself goes by, and that its errors blame. -/
  name : Text
  /-- The answer, given the contexts of the earlier questions, the latest first. Whatever a
  parameter keeps between questions is made of these. -/
  answer : List Context → Context → Except EvaluationError Values

namespace Parameter

variable {Context : Type}

def constant (name : Text) (values : Values) : Parameter Context :=
  ⟨name, fun _ _ => .ok values⟩

/-- Answers with the same value everywhere, and has no name of its own. -/
def single (value : Value) : Parameter Context := constant [] [value]

def ofContext (name : Text) (answer : Context → Except EvaluationError Values) :
    Parameter Context :=
  ⟨name, fun _ context => answer context⟩

def failing (name : Text) (error : EvaluationError) : Parameter Context :=
  ⟨name, fun _ _ => .error error⟩

/-- Keeps a state of its own, which every question may change. -/
def stateful {State : Type} (name : Text) (start : State)
    (ask : Context → State → Except EvaluationError Values × State) : Parameter Context :=
  ⟨name, fun earlier context =>
    (ask context (earlier.foldr (fun context state => (ask context state).2) start)).1⟩

/-- Answers with the number of questions, this one included. -/
def counting (name : Text) : Parameter Context :=
  stateful name 0 fun _ count => (.ok [.integer (Int64.ofNat (count + 1))], count + 1)

theorem answer_counting (name : Text) (earlier : List Context) (context : Context) :
    (counting name).answer earlier context =
      .ok [.integer (Int64.ofNat (earlier.length + 1))] := by
  have count : earlier.foldr (fun _ count => count + 1) 0 = earlier.length := by
    induction earlier with
    | nil => rfl
    | cons context earlier ih => exact congrArg (· + 1) ih
  simp only [counting, stateful, count]

end Parameter

/-- A parameter under the name that templates call it by, and the contexts that it was asked in,
the latest first. -/
structure Registration (Context : Type) where
  key : Text
  parameter : Parameter Context
  earlier : List Context

namespace Registration

variable {Context : Type}

/-- The registration after a question to the parameter of a name. -/
def asked (context : Context) (name : Text) (registration : Registration Context) :
    Registration Context :=
  if registration.key = name then
    { registration with earlier := context :: registration.earlier }
  else registration

@[simp] theorem key_asked (context : Context) (name : Text)
    (registration : Registration Context) :
    (registration.asked context name).key = registration.key := by
  unfold asked
  split <;> rfl

end Registration

/-- Parameters by name, at most one for a name. -/
structure Registry (Context : Type) where
  registrations : List (Registration Context) := []
  nodup_keys : (registrations.map (·.key)).Nodup := by simp

namespace Registry

variable {Context : Type}

def lookup? (registry : Registry Context) (name : Text) : Option (Registration Context) :=
  registry.registrations.find? fun registration => registration.key == name

/-- Registers a parameter that was not asked yet, in place of any of the same name. -/
def register (registry : Registry Context) (name : Text) (parameter : Parameter Context) :
    Registry Context :=
  { registrations :=
      registry.registrations.filter (fun registration => registration.key != name) ++
        [⟨name, parameter, []⟩]
    nodup_keys := by
      rw [List.map_append, List.nodup_append]
      refine ⟨registry.nodup_keys.sublist (List.filter_sublist.map _), by simp, ?_⟩
      simp only [List.mem_map, List.mem_filter, bne_iff_ne, List.map_cons, List.map_nil,
        List.mem_singleton]
      rintro _ ⟨registration, ⟨_, different⟩, rfl⟩ _ rfl
      exact different }

def contains (registry : Registry Context) (name : Text) : Bool :=
  (registry.lookup? name).isSome

def size (registry : Registry Context) : Nat := registry.registrations.length

def isEmpty (registry : Registry Context) : Bool := registry.registrations.isEmpty

def names (registry : Registry Context) : List Text :=
  (registry.registrations.map (·.key)).mergeSort Text.atMost

/-- Asks the parameter of a name: the answer, and the registry that remembers the question. -/
def resolve (registry : Registry Context) (context : Context) (name : Text) :
    Except EvaluationError Values × Registry Context :=
  match registry.lookup? name with
  | none => (.ok [], registry)
  | some found =>
    (found.parameter.answer found.earlier context,
      { registrations := registry.registrations.map (Registration.asked context name)
        nodup_keys := by simpa [Function.comp_def] using registry.nodup_keys })

def described (registry : Registry Context) : Text :=
  "ParameterMap \x7b binds: ".toList ++ Text.quotedList registry.names ++ [' ', '}']

theorem lookup?_register (registry : Registry Context) (name other : Text)
    (parameter : Parameter Context) :
    (registry.register name parameter).lookup? other =
      if name = other then some ⟨name, parameter, []⟩ else registry.lookup? other := by
  by_cases same : name = other
  · subst same
    have absent : registry.registrations.find? (fun _ => false) = none := by simp
    simp [lookup?, register, List.find?_append, List.find?_filter, absent]
  · simp only [lookup?, register, List.find?_append, List.find?_filter, same, if_false,
      List.find?_singleton, beq_eq_false_iff_ne.mpr same, Bool.false_eq_true, Option.or_none]
    congr 1
    funext registration
    by_cases found : registration.key = other
    · simp [found, Ne.symm same]
    · simp [found]

end Registry

end QueryTemplate
