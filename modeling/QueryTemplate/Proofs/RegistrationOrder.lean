import Mathlib.Data.List.Nodup
import QueryTemplate.Path.Bind
import QueryTemplate.Proofs.ClosedLookup
import QueryTemplate.Proofs.CountedQuestions
import QueryTemplate.Proofs.TextLists

/-! The order of registrations. A registry knows the last parameter of every name and nothing else
of how it came about: registries with the same look-ups hold the same registrations up to order,
and no description, look-up or rendering depends on that order. -/

set_option autoImplicit false

namespace QueryTemplate

/-! ## Registrations in a row -/

/-- The parameter that was registered last under a name. -/
def lastParameter? {Context : Type} (registered : List (Text × Parameter Context)) (name : Text) :
    Option (Parameter Context) :=
  (registered.reverse.find? fun entry => entry.1 == name).map Prod.snd

/-- What a registry over documents is given: any parameter, under a name that need not be its own,
or a bind. -/
inductive DocumentRegistration where
  | under (name : Text) (parameter : Parameter Document)
  | bind (bind : DocumentBind)

/-- The name that is registered, and the parameter behind it. -/
def DocumentRegistration.entry : DocumentRegistration → Text × Parameter Document
  | .under name parameter => (name, parameter)
  | .bind own => (own.name, own.parameter)

namespace Registry

section Registered

variable {Context : Type}

def empty : Registry Context := {}

/-- The registry in which parameters were registered one after the other. -/
def ofParameters (registered : List (Text × Parameter Context)) : Registry Context :=
  registered.foldl (fun registry entry => registry.register entry.1 entry.2) empty

def registerOverDocuments (registry : Registry Document) :
    DocumentRegistration → Registry Document
  | .under name parameter => registry.register name parameter
  | .bind own => registry.bind own

/-- The registry over documents that was given some registrations one after the other. -/
def ofRegistrations (registered : List DocumentRegistration) : Registry Document :=
  registered.foldl registerOverDocuments empty

theorem ofRegistrations_eq (registered : List DocumentRegistration) :
    ofRegistrations registered = ofParameters (registered.map DocumentRegistration.entry) := by
  rw [ofRegistrations, ofParameters, List.foldl_map]
  congr 1
  funext registry registration
  cases registration <;> rfl

theorem lookup?_ofParameters (registered : List (Text × Parameter Context)) (name : Text) :
    (ofParameters registered).lookup? name =
      (lastParameter? registered name).map fun parameter => ⟨name, parameter, []⟩ := by
  refine (lookup?_foldl_register Prod.fst Prod.snd registered name).trans ?_
  rw [lastParameter?, Option.map_map]
  cases last : registered.reverse.find? fun entry => entry.1 == name with
  | none => rfl
  | some entry =>
    obtain rfl : entry.1 = name := by simpa using List.find?_some last
    rfl

theorem contains_ofParameters_iff {registered : List (Text × Parameter Context)} {name : Text} :
    (ofParameters registered).contains name = true ↔ name ∈ registered.map Prod.fst := by
  simp [contains, lookup?_ofParameters, lastParameter?]

end Registered

/-! ## The registrations of a registry -/

section Contents

variable {Context : Type} {registry : Registry Context}

/-- What is found under a name is the one registration of that name. -/
theorem lookup?_eq_some_iff {name : Text} {registration : Registration Context} :
    registry.lookup? name = some registration ↔
      registration ∈ registry.registrations ∧ registration.key = name := by
  constructor
  · intro known
    exact ⟨List.mem_of_find?_eq_some known, key_of_lookup? known⟩
  · rintro ⟨member, rfl⟩
    cases known : registry.lookup? registration.key with
    | none =>
      have different := List.find?_eq_none.mp known registration member
      simp at different
    | some found =>
      have other := List.mem_of_find?_eq_some known
      rw [List.inj_on_of_nodup_map registry.nodup_keys other member (key_of_lookup? known)]

theorem mem_registrations_iff {registration : Registration Context} :
    registration ∈ registry.registrations ↔
      registry.lookup? registration.key = some registration := by
  rw [lookup?_eq_some_iff, and_iff_left rfl]

theorem contains_iff_exists {name : Text} :
    registry.contains name = true ↔ ∃ found, registry.lookup? name = some found :=
  Option.isSome_iff_exists

theorem mem_keys_iff {name : Text} :
    name ∈ registry.registrations.map (·.key) ↔ registry.contains name = true := by
  simp only [List.mem_map, contains_iff_exists, lookup?_eq_some_iff]

/-- A registry in which the names of a list were registered, each at least once. -/
structure HasNames (registry : Registry Context) (registered : List Text) : Prop where
  size : registry.size = registered.eraseDups.length
  isEmpty : registry.isEmpty = true ↔ registered = []
  found : ∀ name, (∃ found, registry.lookup? name = some found) ↔ name ∈ registered
  contains : ∀ name, registry.contains name = true ↔ name ∈ registered
  names : registry.names = registered.eraseDups.mergeSort Text.atMost

/-- What a registry contains decides all of it, as it has no name twice. -/
theorem hasNames_of_contains {registered : List Text}
    (contains : ∀ name, registry.contains name = true ↔ name ∈ registered) :
    registry.HasNames registered := by
  -- Neither list repeats a name, so that they have the same members is enough.
  have perm : (registry.registrations.map (·.key)).Perm registered.eraseDups := by
    refine (List.perm_ext_iff_of_nodup registry.nodup_keys (Text.nodup_eraseDups registered)).mpr ?_
    intro name
    exact mem_keys_iff.trans ((contains name).trans List.mem_eraseDups.symm)
  have noKeys : registry.registrations.map (·.key) = [] ↔ registered = [] := by
    simp only [List.eq_nil_iff_forall_not_mem, mem_keys_iff, contains]
  exact {
    size := by simpa [Registry.size] using perm.length_eq
    isEmpty := List.isEmpty_iff.trans (List.map_eq_nil_iff.symm.trans noKeys)
    found := fun name => contains_iff_exists.symm.trans (contains name)
    contains
    names := Text.mergeSort_eq_of_perm perm }

end Contents

/-! ## Equal look-ups -/

section Equivalence

variable {Context : Type} {left right : Registry Context}

/-- Registries with the same registrations of all names, in whatever order they hold them. -/
def Equivalent (left right : Registry Context) : Prop :=
  ∀ name, left.lookup? name = right.lookup? name

theorem equivalent_ofParameters_iff {first second : List (Text × Parameter Context)} :
    (ofParameters first).Equivalent (ofParameters second) ↔
      ∀ name, lastParameter? first name = lastParameter? second name := by
  simp only [Equivalent, lookup?_ofParameters]
  -- Nothing was asked yet, so registrations of one name differ in their parameters alone.
  refine forall_congr' fun name => Option.map_inj_right ?_
  intro parameter other same
  cases same
  rfl

namespace Equivalent

theorem perm (equivalent : left.Equivalent right) :
    left.registrations.Perm right.registrations := by
  refine (List.perm_ext_iff_of_nodup (List.Nodup.of_map _ left.nodup_keys)
    (List.Nodup.of_map _ right.nodup_keys)).mpr ?_
  intro registration
  rw [mem_registrations_iff, mem_registrations_iff, equivalent]

theorem names_eq (equivalent : left.Equivalent right) : left.names = right.names :=
  Text.mergeSort_eq_of_perm (equivalent.perm.map _)

theorem agreesOn (context : Context) (names : List Text) :
    (resolver context).AgreesOn names (resolver context) Equivalent :=
  fun asked _ _ _ equivalent =>
    ⟨congrArg (Except.map List.head?) (resolve_congr (equivalent asked) context),
      fun name => lookup?_resolve_congr (equivalent name) context asked⟩

theorem render (equivalent : left.Equivalent right) (t : Template) (context : Context) :
    (t.render left context).1 = (t.render right context).1 ∧
      (t.render left context).2.Equivalent (t.render right context).2 :=
  t.renderBy_eq_of_agreesOn (agreesOn context t.names) equivalent

theorem afterRenders (equivalent : left.Equivalent right) (renders : List (Template × Context)) :
    (left.afterRenders renders).Equivalent (right.afterRenders renders) := by
  induction renders generalizing left right with
  | nil => exact equivalent
  | cons render renders ih => exact ih (equivalent.render render.1 render.2).2

end Equivalent

/-- Registries that cannot be told apart, neither at once nor after the same renderings. -/
structure Alike (left right : Registry Context) : Prop where
  size : left.size = right.size
  isEmpty : left.isEmpty = right.isEmpty
  contains : ∀ name, left.contains name = right.contains name
  names : left.names = right.names
  described : left.described = right.described
  lookup : ∀ name, left.lookup? name = right.lookup? name
  resolve : ∀ renders context name,
    ((left.afterRenders renders).resolve context name).1 =
      ((right.afterRenders renders).resolve context name).1
  render : ∀ renders context (t : Template),
    (t.render (left.afterRenders renders) context).1 =
      (t.render (right.afterRenders renders) context).1

theorem Equivalent.alike (equivalent : left.Equivalent right) : left.Alike right where
  size := equivalent.perm.length_eq
  isEmpty := equivalent.perm.isEmpty_eq
  contains name := congrArg Option.isSome (equivalent name)
  names := equivalent.names_eq
  described := by
    unfold described
    rw [equivalent.names_eq]
  lookup := equivalent
  resolve renders context name := resolve_congr (equivalent.afterRenders renders name) context
  render renders context t := ((equivalent.afterRenders renders).render t context).1

end Equivalence

/-- Registries over documents that cannot be told apart. -/
structure AlikeOverDocuments (left right : Registry Document) : Prop extends left.Alike right where
  describedOverDocuments : left.describedOverDocuments = right.describedOverDocuments

theorem Alike.overDocuments {left right : Registry Document} (alike : left.Alike right) :
    left.AlikeOverDocuments right where
  toAlike := alike
  describedOverDocuments := by
    unfold Registry.describedOverDocuments
    rw [alike.described]

/-- Two registries cannot be told apart exactly if every name was registered last with the same
parameter in both, whatever was registered before and in whichever order. A registry counts each
registered name once and finds these names and no others. -/
theorem alike_iff_same_last :
    (∀ {Context : Type} (left right : List (Text × Parameter Context)),
      (ofParameters left).Alike (ofParameters right) ↔
        ∀ name, lastParameter? left name = lastParameter? right name) ∧
    (∀ left right : List DocumentRegistration,
      (ofRegistrations left).AlikeOverDocuments (ofRegistrations right) ↔
        ∀ name, lastParameter? (left.map (·.entry)) name =
          lastParameter? (right.map (·.entry)) name) ∧
    (∀ {Context : Type} (registered : List (Text × Parameter Context)),
      (ofParameters registered).HasNames (registered.map (·.1))) ∧
    ∀ registered : List DocumentRegistration,
      (ofRegistrations registered).HasNames (registered.map (·.entry.1)) := by
  have parameters {Context : Type} (left right : List (Text × Parameter Context)) :
      (ofParameters left).Alike (ofParameters right) ↔
        ∀ name, lastParameter? left name = lastParameter? right name := by
    rw [← equivalent_ofParameters_iff]
    exact ⟨Alike.lookup, Equivalent.alike⟩
  have names {Context : Type} (registered : List (Text × Parameter Context)) :
      (ofParameters registered).HasNames (registered.map (·.1)) :=
    hasNames_of_contains fun _ => contains_ofParameters_iff
  refine ⟨parameters, ?_, names, ?_⟩
  · intro left right
    rw [ofRegistrations_eq, ofRegistrations_eq, ← parameters]
    exact ⟨AlikeOverDocuments.toAlike, Alike.overDocuments⟩
  · intro registered
    have registry := names (registered.map (·.entry))
    rwa [List.map_map, ← ofRegistrations_eq] at registry

/-- Parameters of all kinds under two names, which replace each other in different orders. -/
theorem alike_iff_same_last_replaced :
    let a := ['a']
    let b := ['b']
    let left : List DocumentRegistration :=
      [.bind (.path b ['B']), .bind (.constant a (.boolean true)), .under a (.counting [])]
    let right : List DocumentRegistration :=
      [.under a (.counting []), .bind (.sequence b []), .under b (.failing b (.expression b [])),
        .bind (.constant a (.text ['x'])), .bind (.path b ['B']), .under a (.counting [])]
    let t : Template := .slot a true (.slot b true .nil)
    let document := Document.object [(['B'], .string ['y'])]
    (∀ name, lastParameter? (left.map (·.entry)) name =
        lastParameter? (right.map (·.entry)) name) ∧
      (ofRegistrations left).AlikeOverDocuments (ofRegistrations right) ∧
      (ofRegistrations right).size = 2 ∧
      (t.render ((ofRegistrations left).afterRenders [(t, document)]) document).1 =
        .ok ['2', 'y'] ∧
      (t.render ((ofRegistrations right).afterRenders [(t, document)]) document).1 =
        .ok ['2', 'y'] := by
  intro a b left right t document
  obtain ⟨_, documents, _, names⟩ := alike_iff_same_last
  have same : ∀ name, lastParameter? (left.map (·.entry)) name =
      lastParameter? (right.map (·.entry)) name := by
    intro name
    by_cases first : a = name
    · subst first
      rfl
    · by_cases second : b = name
      · subst second
        rfl
      · simp [lastParameter?, left, right, DocumentRegistration.entry, DocumentBind.name, first,
          second]
  have alike := (documents left right).mpr same
  have rendered : (t.render ((ofRegistrations left).afterRenders [(t, document)]) document).1 =
      .ok ['2', 'y'] := by
    dsimp only [t, document, left, a, b]
    decide +kernel
  refine ⟨same, alike, (names right).size.trans (by decide), rendered, ?_⟩
  rw [← alike.render, rendered]

end Registry

end QueryTemplate
