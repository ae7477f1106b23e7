import Mathlib.Data.List.Forall2
import QueryTemplate.Path.Select
import QueryTemplate.Proofs.Addresses

/-! The addresses that match a path. A match is told from the keys of an address and from how it
ends; the way down is told test by test, as selecting goes. Both come to the same. -/

set_option autoImplicit false

namespace QueryTemplate

/-! ## Matching addresses -/

/-- The keys that a test is for: the one that it names or, if it is a wildcard, any. -/
inductive StepTest.IsFor : StepTest → Text → Prop where
  | name (key : Text) : IsFor (.name key) key
  | wildcard (key : Text) : IsFor .wildcard key

theorem StepTest.admits_iff_isFor {test : StepTest} {key : Text} :
    test.admits key = true ↔ test.IsFor key := by
  constructor
  · intro admitted
    cases test with
    | self => cases admitted
    | name wanted =>
      cases eq_of_beq admitted
      exact .name key
    | wildcard => exact .wildcard key
  · intro wanted
    cases wanted with
    | name => exact beq_self_eq_true key
    | wildcard => rfl

namespace Path

def tests (path : Path) : List StepTest := (path.map Step.test).filter (· != .self)

def unpositioned (path : Path) : Path := path.map fun step => { step with position := none }

theorem tests_cons (step : Step) (path : Path) :
    tests (step :: path) =
      if step.test = .self then tests path else step.test :: tests path := by
  by_cases self : step.test = .self <;> simp [tests, self]

theorem unpositioned_of_forall {path : Path} (free : ∀ step ∈ path, step.position = none) :
    path.unpositioned = path := by
  unfold unpositioned
  apply List.map_congr_left _ |>.trans (List.map_id path)
  intro step member
  obtain ⟨test, position⟩ := step
  cases free _ member
  rfl

end Path

namespace Document

def isArray : Document → Bool
  | array _ => true
  | _ => false

/-- That an address ends at its last key, or, where that leads to an array, one index behind it. -/
def EndsAtKey (document : Document) (address : Address) : Prop :=
  ∃ front key behind value, address = front ++ .key key :: behind ∧ Address.keys behind = [] ∧
    document.at? (front ++ [.key key]) = some value ∧
    behind.length = if value.isArray then 1 else 0

end Document

/-- That an address is one of those that a path asks for, positions apart: tests and keys belong
together one by one, and no other address than that of the document itself is without a key. -/
structure Path.Matches (path : Path) (document : Document) (address : Address) : Prop where
  keys : List.Forall₂ StepTest.IsFor path.tests address.keys
  ends : address = [] ∨ document.EndsAtKey address

/-! ## The way down -/

/-- The way that tests lead down from a document: through the items of arrays to a member that the
first test is for, into the items of an array that stands there, and on from there by the others. -/
inductive Reaches : List StepTest → Document → Address → Document → Prop where
  | done {document : Document} : Reaches [] document [] document
  | item {test : StepTest} {tests : List StepTest} {items : List Document} {index : Nat}
      {item node : Document} {address : Address} :
      items[index]? = some item → Reaches (test :: tests) item address node →
      Reaches (test :: tests) (.array items) (.index index :: address) node
  | single {test : StepTest} {tests : List StepTest} {members : Members} {key : Text}
      {value node : Document} {address : Address} :
      members.get? key = some value → test.IsFor key → value.isArray = false →
      Reaches tests value address node →
      Reaches (test :: tests) (.object members) (.key key :: address) node
  | repeated {test : StepTest} {tests : List StepTest} {members : Members} {key : Text}
      {items : List Document} {index : Nat} {item node : Document} {address : Address} :
      members.get? key = some (.array items) → test.IsFor key →
      items[index]? = some item → Reaches tests item address node →
      Reaches (test :: tests) (.object members) (.key key :: .index index :: address) node

theorem Reaches.append {test : StepTest} {tests : List StepTest} {document middle node : Document}
    {front back : Address} (first : Reaches [test] document front middle)
    (further : Reaches tests middle back node) :
    Reaches (test :: tests) document (front ++ back) node := by
  generalize single : [test] = one at first
  induction first with
  | done => cases single
  | item found _ ih =>
    cases single
    exact .item found (ih further rfl)
  | single found wanted simple last =>
    cases single
    cases last
    exact .single found wanted simple further
  | repeated found wanted item last =>
    cases single
    cases last
    exact .repeated found wanted item further

theorem Reaches.split {test : StepTest} {tests : List StepTest} {document node : Document}
    {address : Address} (reaches : Reaches (test :: tests) document address node) :
    ∃ front middle back, address = front ++ back ∧ Reaches [test] document front middle ∧
      Reaches tests middle back node := by
  generalize all : test :: tests = tests' at reaches
  induction reaches with
  | done => cases all
  | @item _ _ _ index _ _ _ found _ ih =>
    cases all
    obtain ⟨front, middle, back, rfl, first, further⟩ := ih rfl
    exact ⟨.index index :: front, middle, back, rfl, .item found first, further⟩
  | @single _ _ _ key value _ address found wanted simple further =>
    cases all
    exact ⟨[.key key], value, address, rfl, .single found wanted simple .done, further⟩
  | @repeated _ _ _ key _ index item _ address found wanted there further =>
    cases all
    exact ⟨[.key key, .index index], item, address, rfl, .repeated found wanted there .done,
      further⟩

namespace Document

theorem eq_array_of_isArray {document : Document} (array : document.isArray = true) :
    ∃ items, document = .array items := by
  cases document with
  | array items => exact ⟨items, rfl⟩
  | _ => cases array

theorem EndsAtKey.cons {document node : Document} {segment : Segment} {address : Address}
    (found : document.below? segment = some node) (ends : node.EndsAtKey address) :
    document.EndsAtKey (segment :: address) := by
  obtain ⟨front, key, behind, value, rfl, last, there, single⟩ := ends
  exact ⟨segment :: front, key, behind, value, rfl, last,
    at?_cons_eq_some_iff.mpr ⟨node, found, there⟩, single⟩

/-- An address that ends as it should goes on in the same way, or its first segment is its last
key. -/
theorem EndsAtKey.cases {document node : Document} {segment : Segment} {address : Address}
    (found : document.below? segment = some node)
    (ends : document.EndsAtKey (segment :: address)) :
    node.EndsAtKey address ∨
      ∃ key, segment = .key key ∧ Address.keys address = [] ∧
        address.length = if node.isArray then 1 else 0 := by
  obtain ⟨front, key, behind, value, written, last, there, single⟩ := ends
  cases front with
  | nil =>
    obtain ⟨rfl, rfl⟩ := List.cons.inj written
    obtain ⟨below, foundBelow, same⟩ := at?_cons_eq_some_iff.mp there
    cases foundBelow.symm.trans found
    cases same
    exact .inr ⟨key, rfl, last, single⟩
  | cons first front =>
    obtain ⟨rfl, rfl⟩ := List.cons.inj written
    obtain ⟨below, foundBelow, there⟩ := at?_cons_eq_some_iff.mp there
    cases foundBelow.symm.trans found
    exact .inl ⟨front, key, behind, value, rfl, last, there, single⟩

theorem EndsAtKey.keys_ne_nil {document : Document} {address : Address}
    (ends : document.EndsAtKey address) : address.keys ≠ [] := by
  obtain ⟨front, key, behind, _, rfl, _, _, _⟩ := ends
  simp

end Document

theorem Reaches.at {tests : List StepTest} {document node : Document} {address : Address}
    (reaches : Reaches tests document address node) : document.at? address = some node := by
  induction reaches with
  | done => rfl
  | item found _ ih => exact Document.at?_cons_eq_some_iff.mpr ⟨_, found, ih⟩
  | single found _ _ _ ih => exact Document.at?_cons_eq_some_iff.mpr ⟨_, found, ih⟩
  | @repeated _ _ _ _ items index item node address found _ there _ ih =>
    have further : (Document.array items).at? (.index index :: address) = some node :=
      Document.at?_cons_eq_some_iff.mpr ⟨item, there, ih⟩
    exact Document.at?_cons_eq_some_iff.mpr ⟨_, found, further⟩

theorem Reaches.keys {tests : List StepTest} {document node : Document} {address : Address}
    (reaches : Reaches tests document address node) :
    List.Forall₂ StepTest.IsFor tests address.keys := by
  induction reaches with
  | done => exact .nil
  | item _ _ ih => exact ih
  | single _ wanted _ _ ih => exact .cons wanted ih
  | repeated _ wanted _ _ ih => exact .cons wanted ih

theorem Reaches.ends {tests : List StepTest} {document node : Document} {address : Address}
    (reaches : Reaches tests document address node) :
    address = [] ∨ document.EndsAtKey address := by
  induction reaches with
  | done => exact .inl rfl
  | @item test tests items index item node address found further ih =>
    rcases ih with rfl | ends
    · cases further.keys
    · exact .inr (ends.cons found)
  | @single _ _ members key value _ address found _ simple _ ih =>
    rcases ih with rfl | ends
    · refine .inr ⟨[], key, [], value, rfl, rfl, ?_, ?_⟩
      · exact Document.at?_cons_eq_some_iff.mpr ⟨value, found, rfl⟩
      · rw [simple]
        rfl
    · exact .inr (ends.cons found)
  | @repeated _ _ members key items index item _ address found _ there _ ih =>
    rcases ih with rfl | ends
    · refine .inr ⟨[], key, [.index index], .array items, rfl, rfl, ?_, rfl⟩
      exact Document.at?_cons_eq_some_iff.mpr ⟨_, found, rfl⟩
    · have inArray : (Document.array items).EndsAtKey (.index index :: address) := ends.cons there
      exact .inr (inArray.cons found)

theorem Document.at?_behind_last_key {value node : Document} {address : Address}
    (found : value.at? address = some node) (nothing : Address.keys address = [])
    (length : address.length = if value.isArray then 1 else 0) :
    (value.isArray = false ∧ address = [] ∧ node = value) ∨
      ∃ items index, value = .array items ∧ address = [.index index] ∧
        items[index]? = some node := by
  cases array : value.isArray with
  | false =>
    rw [array] at length
    cases List.length_eq_zero_iff.mp length
    cases found
    exact .inl ⟨rfl, rfl, rfl⟩
  | true =>
    rw [array] at length
    obtain ⟨segment, rfl⟩ := List.length_eq_one_iff.mp length
    obtain ⟨items, rfl⟩ := eq_array_of_isArray array
    cases segment with
    | key => cases nothing
    | index index =>
      obtain ⟨item, entry, same⟩ := at?_cons_eq_some_iff.mp found
      cases same
      exact .inr ⟨items, index, rfl, rfl, entry⟩

/-- The way goes on behind a key as it does from the value there, but never ends at an array. -/
theorem Reaches.of_value {test : StepTest} {tests : List StepTest} {members : Members} {key : Text}
    {value node : Document} {address : Address} (member : members.get? key = some value)
    (wanted : test.IsFor key) (further : Reaches tests value address node)
    (nonempty : address ≠ []) :
    Reaches (test :: tests) (.object members) (.key key :: address) node := by
  cases array : value.isArray with
  | false => exact .single member wanted array further
  | true =>
    obtain ⟨items, rfl⟩ := Document.eq_array_of_isArray array
    cases further with
    | done => exact absurd rfl nonempty
    | item entry further => exact .repeated member wanted entry further

theorem reaches_of_at {tests : List StepTest} {document node : Document} {address : Address}
    (found : document.at? address = some node)
    (keys : List.Forall₂ StepTest.IsFor tests address.keys)
    (ends : address = [] ∨ document.EndsAtKey address) :
    Reaches tests document address node := by
  induction address generalizing tests document with
  | nil =>
    cases keys
    cases found
    exact .done
  | cons segment address ih =>
    obtain ⟨below, foundBelow, there⟩ := Document.at?_cons_eq_some_iff.mp found
    have ends := ends.resolve_left (List.cons_ne_nil _ _)
    cases segment with
    | index index =>
      obtain ⟨items, rfl, item⟩ := Document.below?_index_eq_some_iff.mp foundBelow
      rcases ends.cases foundBelow with further | ⟨_, impossible, _⟩
      · cases tests with
        | nil =>
          rw [Address.keys_index] at keys
          exact absurd (List.forall₂_nil_left_iff.mp keys) further.keys_ne_nil
        | cons test tests => exact .item item (ih there keys (.inr further))
      · cases impossible
    | key key =>
      obtain ⟨members, rfl, member⟩ := Document.below?_key_eq_some_iff.mp foundBelow
      rw [Address.keys_key] at keys
      cases keys with
      | @cons test _ tests _ wanted keys =>
        rcases ends.cases foundBelow with further | ⟨_, _, nothing, length⟩
        · apply Reaches.of_value member wanted (ih there keys (.inr further))
          intro empty
          subst empty
          exact further.keys_ne_nil rfl
        · rw [nothing] at keys
          cases keys
          rcases Document.at?_behind_last_key there nothing length with
            ⟨simple, rfl, rfl⟩ | ⟨items, index, rfl, rfl, entry⟩
          · exact .single member wanted simple .done
          · exact .repeated member wanted entry .done

theorem Path.reaches_tests_iff {path : Path} {document node : Document} {address : Address} :
    Reaches path.tests document address node ↔
      document.at? address = some node ∧ path.Matches document address := by
  constructor
  · intro reaches
    exact ⟨reaches.at, reaches.keys, reaches.ends⟩
  · intro matching
    obtain ⟨found, keys, ends⟩ := matching
    exact reaches_of_at found keys ends

end QueryTemplate
