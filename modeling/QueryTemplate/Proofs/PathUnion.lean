import QueryTemplate.Path.Parse
import QueryTemplate.Path.Select
import QueryTemplate.Proofs.TextSearch

/-! Expressions with a bar between them. Reading does not depend on the offset at which a text
starts but for the faults that it reports, which move with the text. So a union is read as its two
operands, one after the other, and reports the fault of the first one that is malformed. -/

set_option autoImplicit false

namespace QueryTemplate

/-! ## Moved texts -/

def PathFault.shift (distance : Nat) (fault : PathFault) : PathFault :=
  { fault with offset := distance + fault.offset }

/-- That a reader does the same wherever a text starts, and faults move with the text. -/
def Movable {α : Type} (read : Nat → Text → Except PathFault α) : Prop :=
  ∀ distance offset text,
    read (distance + offset) text = (read offset text).mapError (PathFault.shift distance)

theorem Movable.readEach {α : Type} {read : Nat → Text → Except PathFault α}
    (movable : Movable read) (distance offset : Nat) (texts : List Text) :
    QueryTemplate.readEach read (distance + offset) texts =
      (QueryTemplate.readEach read offset texts).mapError (PathFault.shift distance) := by
  induction texts generalizing offset with
  | nil => rfl
  | cons text texts ih =>
    have further := ih (offset + text.byteLength + 1)
    simp only [← Nat.add_assoc] at further
    rw [QueryTemplate.readEach, QueryTemplate.readEach, movable distance offset text]
    cases read offset text with
    | error fault => rfl
    | ok first =>
      simp only [Except.mapError, further]
      cases QueryTemplate.readEach read (offset + text.byteLength + 1) texts <;> rfl

theorem StepTest.movable_read : Movable StepTest.read := by
  intro distance offset text
  unfold StepTest.read
  split
  · rfl
  · rfl
  · rfl
  · rfl
  · split <;> rfl

theorem Step.movable_read : Movable Step.read := by
  intro distance offset text
  have test (part : Text) := StepTest.movable_read distance offset part
  unfold Step.read
  split
  · rw [test]
    cases StepTest.read offset text <;> rfl
  · rename_i before behind _
    dsimp only
    split
    · simp [Except.mapError, PathFault.shift, Nat.add_assoc]
    · split
      · simp [Except.mapError, PathFault.shift, Nat.add_assoc]
      · rw [test]
        cases StepTest.read offset before <;> rfl

theorem Path.movable_read : Movable Path.read := by
  intro distance offset text
  unfold Path.read
  dsimp only
  split
  · simp [Except.mapError, PathFault.shift, Nat.add_assoc]
  · rw [← Step.movable_read.readEach]
    simp only [Nat.add_assoc]

/-! ## Divided texts -/

/-- How far it is from the start of the first text to where a further one would start. -/
def extent : List Text → Nat
  | [] => 0
  | text :: texts => text.byteLength + 1 + extent texts

theorem readEach_append {α : Type} (read : Nat → Text → Except PathFault α) (offset : Nat)
    (front back : List Text) :
    readEach read offset (front ++ back) =
      (readEach read offset front).bind fun values =>
        (readEach read (offset + extent front) back).map (values ++ ·) := by
  induction front generalizing offset with
  | nil =>
    simp only [List.nil_append, readEach, extent, Nat.add_zero, Except.bind]
    cases readEach read offset back <;> rfl
  | cons text front ih =>
    have place : offset + extent (text :: front) =
        offset + text.byteLength + 1 + extent front := by
      simp [extent]
      omega
    rw [List.cons_append, readEach, readEach, ih, place]
    cases read offset text with
    | error fault => rfl
    | ok first =>
      simp only
      cases readEach read (offset + text.byteLength + 1) front with
      | error fault => rfl
      | ok values =>
        simp only [Except.bind, Except.map]
        cases readEach read (offset + text.byteLength + 1 + extent front) back <;> rfl

namespace Text

theorem fields_append (separator : Char) (front back : Text) :
    fields separator (front ++ [separator] ++ back) =
      fields separator front ++ fields separator back := by
  rw [List.append_assoc]
  induction front with
  | nil => simp [fields]
  | cons c front ih =>
    rw [List.cons_append, fields, fields, ih]
    by_cases equal : c = separator
    · simp [equal]
    · cases split : fields separator front with
      | nil => exact absurd split (fields_ne_nil separator front)
      | cons first others => simp [equal]

theorem extent_fields {separator : Char} (single : separator.utf8Size = 1) (text : Text) :
    extent (fields separator text) = text.byteLength + 1 := by
  induction text with
  | nil => rfl
  | cons c text ih =>
    rw [fields]
    by_cases equal : c = separator
    · subst equal
      rw [if_pos rfl, byteLength_cons, single, Nat.add_comm 1, ← ih]
      simp [extent]
      omega
    · cases split : fields separator text with
      | nil => exact absurd split (fields_ne_nil separator text)
      | cons first others =>
        rw [split] at ih
        simp only [extent] at ih
        simp only [equal, if_false, extent, byteLength_cons]
        omega

end Text

/-! ## Unions -/

namespace PathExpression

def readPaths (text : Text) : Except PathFault (List Path) :=
  readEach Path.read 0 (Text.fields '|' text)

theorem parse_eq (text : Text) :
    parse text = ((readPaths text).map PathExpression.mk).mapError (PathError.mk text) := by
  rw [parse, readPaths]
  cases readEach Path.read 0 (Text.fields '|' text) <;> rfl

theorem readPaths_append (first second : Text) :
    readPaths (first ++ ['|'] ++ second) =
      (readPaths first).bind fun front =>
        ((readPaths second).mapError (PathFault.shift (first.byteLength + 1))).map
          (front ++ ·) := by
  rw [readPaths, Text.fields_append, readEach_append, Text.extent_fields rfl, Nat.add_comm 0,
    Path.movable_read.readEach]
  rfl

theorem select_mk_append (front back : List Path) (document : Document) :
    select ⟨front ++ back⟩ document = select ⟨front⟩ document ++ select ⟨back⟩ document :=
  List.flatMap_append

theorem isSelf_mk_append (front back : List Path) :
    isSelf ⟨front ++ back⟩ = (isSelf ⟨front⟩ && isSelf ⟨back⟩) :=
  List.all_append

theorem parse_union_of_error (first second : Text) {error : PathError}
    (malformed : parse first = .error error) :
    parse (first ++ ['|'] ++ second) = .error ⟨first ++ ['|'] ++ second, error.fault⟩ := by
  rw [parse_eq] at malformed ⊢
  rw [readPaths_append]
  cases read : readPaths first with
  | ok front =>
    rw [read] at malformed
    cases malformed
  | error fault =>
    rw [read] at malformed
    cases malformed
    rfl

theorem parse_union_of_ok (first : Text) {a : PathExpression} (accepted : parse first = .ok a)
    (second : Text) :
    parse (first ++ ['|'] ++ second) =
      ((parse second).map fun b => PathExpression.mk (a.paths ++ b.paths)).mapError fun error =>
        ⟨first ++ ['|'] ++ second, error.fault.shift (first.byteLength + 1)⟩ := by
  rw [parse_eq] at accepted
  rw [parse_eq, parse_eq, readPaths_append]
  cases read : readPaths first with
  | error fault =>
    rw [read] at accepted
    cases accepted
  | ok front =>
    rw [read] at accepted
    cases accepted
    cases readPaths second <;> rfl

/-- A union is accepted exactly if both operands are, and selects what the first one selects and
then what the second one selects. A malformed union reports the fault of its first operand where
that one has it, and else the fault of the second, moved behind the first operand and the bar. -/
theorem parse_union (first second : Text) :
    ((∃ both, parse (first ++ ['|'] ++ second) = .ok both) ↔
      (∃ a, parse first = .ok a) ∧ ∃ b, parse second = .ok b) ∧
    (∀ a b, parse first = .ok a → parse second = .ok b →
      ∃ both, parse (first ++ ['|'] ++ second) = .ok both ∧
        (∀ document, both.select document = a.select document ++ b.select document) ∧
        (both.isSelf = true ↔ a.isSelf = true ∧ b.isSelf = true)) ∧
    (∀ error, parse first = .error error →
      parse (first ++ ['|'] ++ second) = .error ⟨first ++ ['|'] ++ second, error.fault⟩) ∧
    (∀ a error, parse first = .ok a → parse second = .error error →
      parse (first ++ ['|'] ++ second) = .error ⟨first ++ ['|'] ++ second,
        first.byteLength + 1 + error.fault.offset, error.fault.problem⟩) := by
  refine ⟨?_, ?_, fun error => parse_union_of_error first second, ?_⟩
  · cases readFirst : parse first with
    | error error =>
      rw [parse_union_of_error first second readFirst]
      simp
    | ok a =>
      rw [parse_union_of_ok first readFirst]
      cases parse second <;> simp [Except.map, Except.mapError]
  · intro a b readFirst readSecond
    refine ⟨⟨a.paths ++ b.paths⟩, ?_, select_mk_append a.paths b.paths, ?_⟩
    · rw [parse_union_of_ok first readFirst, readSecond]
      rfl
    · rw [isSelf_mk_append, Bool.and_eq_true]
  · intro a error readFirst readSecond
    rw [parse_union_of_ok first readFirst, readSecond]
    rfl

/-- The first operand is a union itself, and its first character has two bytes. What it selects
stands in front, in the order of its own operands, not of the document. -/
theorem parse_union_moved :
    let first : PathExpression := ⟨[[⟨.name ['é'], none⟩], [⟨.name ['A'], none⟩]]⟩
    let second : PathExpression := ⟨[[⟨.name ['B'], some 2⟩]]⟩
    let sample : Document :=
      .object [(['A'], .string ['x']), (['B'], .array [.string ['y'], .string ['z']]),
        (['é'], .string ['u'])]
    parse "é|A".toList = .ok first ∧ parse " ./B[2]".toList = .ok second ∧
      (∃ both, parse "é|A| ./B[2]".toList = .ok both ∧
        both.select sample = [.string ['u'], .string ['x'], .string ['z']]) ∧
      parse " ./B[0]".toList = .error ⟨" ./B[0]".toList, 5, .badPosition⟩ ∧
      parse "é|A| ./B[0]".toList = .error ⟨"é|A| ./B[0]".toList, 10, .badPosition⟩ := by
  intro first second sample
  have accepted : parse "é|A".toList = .ok first := by decide +kernel
  have behind : parse " ./B[2]".toList = .ok second := by decide +kernel
  have malformed : parse " ./B[0]".toList = .error ⟨" ./B[0]".toList, 5, .badPosition⟩ := by
    decide +kernel
  obtain ⟨_, unites, _⟩ := parse_union "é|A".toList " ./B[2]".toList
  obtain ⟨both, read, selects, _⟩ := unites first second accepted behind
  obtain ⟨_, _, _, blames⟩ := parse_union "é|A".toList " ./B[0]".toList
  exact ⟨accepted, behind, ⟨both, read, selects sample⟩, malformed,
    blames first _ accepted malformed⟩

end PathExpression

end QueryTemplate
