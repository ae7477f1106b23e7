import QueryTemplate.Proofs.PathGrammar
import QueryTemplate.Proofs.PathUnion

/-! Which step a fault blames. Pieces are read from left to right, so all in front of the blamed one
are well formed. In the blamed piece the brackets are looked at before the test, and the place of
the fault is that of the bracket, of what stands in the brackets, or of the piece as a whole. -/

set_option autoImplicit false

namespace QueryTemplate

/-! ## Flaws -/

/-- What is wrong with the text of a test. -/
inductive StepTest.Flaw (text : Text) : PathProblem → Prop where
  | empty : Text.AllBlank text → Flaw text .emptyStep
  | parent : Text.Spaced (· = ['.', '.']) text → Flaw text .parentStep
  | name : ¬ Text.AllBlank text → ¬ Text.Spaced (· = ['.', '.']) text →
      (∀ test : StepTest, ¬ Text.Spaced test.Form text) → Flaw text .invalidName

/-- What is wrong with a piece, and how many bytes behind the start of the piece that is. The test
counts only if there is no bracket, or if a position stands in brackets at the end. -/
inductive Step.Flaw : Text → PathProblem → Nat → Prop where
  | unterminated {front behind : Text} : '[' ∉ front →
      (front ++ ['['] ++ behind).getLast? ≠ some ']' →
      Flaw (front ++ ['['] ++ behind) .unterminatedPredicate front.byteLength
  | position {front inner : Text} : '[' ∉ front →
      (∀ position, ¬ Text.Spaced (PositionForm position) inner) →
      Flaw (front ++ ['['] ++ (inner ++ [']'])) .badPosition (front.byteLength + 1)
  | test {text : Text} {problem : PathProblem} : '[' ∉ text → StepTest.Flaw text problem →
      Flaw text problem 0
  | testOfPositioned {front inner : Text} {position : Nat} {problem : PathProblem} :
      '[' ∉ front → Text.Spaced (PositionForm position) inner → StepTest.Flaw front problem →
      Flaw (front ++ ['['] ++ (inner ++ [']'])) problem 0

namespace Path

/-- A text of one path in the parts that it is read in: blanks, a start, pieces with slashes
between them, one of which is singled out, and blanks. -/
structure Division where
  before : Text
  start : Text
  others : List Text
  piece : Text
  further : List Text
  after : Text

namespace Division

def steps (division : Division) : Text :=
  ['/'].intercalate (division.others ++ division.piece :: division.further)

/-- What stands in front of the piece. -/
def front (division : Division) : Text :=
  division.before ++ division.start ++ division.others.flatMap fun other => other ++ ['/']

structure Divides (division : Division) (text : Text) : Prop where
  whole : text = division.before ++ (division.start ++ division.steps) ++ division.after
  blankBefore : Text.AllBlank division.before
  blankAfter : Text.AllBlank division.after
  trimmed : Text.Trimmed (division.start ++ division.steps)
  nonempty : division.start ++ division.steps ≠ []
  starts : Starts division.start division.steps
  noSlash : ∀ part ∈ division.others ++ division.piece :: division.further, '/' ∉ part

theorem Divides.exists_behind {division : Division} {text : Text} (divides : division.Divides text) :
    ∃ behind, text = division.front ++ division.piece ++ behind := by
  refine ⟨(division.further.flatMap fun other => ['/'] ++ other) ++ division.after, ?_⟩
  rw [divides.whole, steps, Text.intercalate_append_cons, front]
  simp

end Division

/-- The faults of a text of one path. A text of blanks is at fault at its end. In any other text
the first malformed piece is blamed. -/
inductive Blames (text : Text) : PathFault → Prop where
  | blank : Text.AllBlank text → Blames text ⟨text.byteLength, .emptyPath⟩
  | piece {division : Division} {problem : PathProblem} {place : Nat} :
      division.Divides text → (∀ other ∈ division.others, ∃ step : Step, step.Form other) →
      (¬ ∃ step : Step, step.Form division.piece) → Step.Flaw division.piece problem place →
      Blames text ⟨division.front.byteLength + place, problem⟩

end Path

/-! ## Tests -/

namespace Text

theorem AllBlank.trim_eq_nil {text : Text} (blank : AllBlank text) : trim text = [] := by
  have trimmed : Trimmed [] := trimmed_of_visible (by simp)
  simpa using trimmed.trim_append blank allBlank_nil

theorem allBlank_iff_trim {text : Text} : AllBlank text ↔ trim text = [] := by
  constructor
  · exact AllBlank.trim_eq_nil
  · intro nothing
    obtain ⟨before, after, blankBefore, blankAfter, whole⟩ := exists_eq_append_trim text
    rw [nothing, List.append_nil] at whole
    rw [whole]
    exact blankBefore.append blankAfter

theorem spaced_parent_iff {text : Text} : Spaced (· = ['.', '.']) text ↔ trim text = ['.', '.'] := by
  apply spaced_iff_trim
  rintro core rfl
  apply trimmed_of_visible
  simp only [List.forall_mem_cons]
  exact ⟨rfl, rfl, by simp⟩

end Text

namespace StepTest

variable {text : Text}

theorem flaw_of_read (unseparated : Unseparated text) (noBracket : '[' ∉ text) {offset : Nat}
    {fault : PathFault} (failed : read offset text = .error fault) :
    fault.offset = offset ∧ Flaw text fault.problem := by
  have rejected : ∀ test : StepTest, ¬ Text.Spaced test.Form text := by
    intro test form
    rw [(read_eq_ok_iff offset test unseparated noBracket).mpr form] at failed
    cases failed
  unfold read at failed
  split at failed
  · rename_i nothing
    cases failed
    exact ⟨rfl, .empty (Text.allBlank_iff_trim.mpr nothing)⟩
  · cases failed
  · rename_i parent
    cases failed
    exact ⟨rfl, .parent (Text.spaced_parent_iff.mpr parent)⟩
  · cases failed
  · rename_i notEmpty _ notParent _
    split at failed
    · cases failed
      exact ⟨rfl, .name (fun blank => notEmpty (Text.allBlank_iff_trim.mp blank))
        (fun parent => notParent (Text.spaced_parent_iff.mp parent)) rejected⟩
    · cases failed

theorem Flaw.read_eq_error (unseparated : Unseparated text) (noBracket : '[' ∉ text)
    {problem : PathProblem} (flaw : Flaw text problem) (offset : Nat) :
    read offset text = .error ⟨offset, problem⟩ := by
  cases flaw with
  | empty blank => rw [read, Text.allBlank_iff_trim.mp blank]
  | parent parent =>
    rw [read, Text.spaced_parent_iff.mp parent]
    rfl
  | name notBlank notParent rejected =>
    cases outcome : read offset text with
    | ok test =>
      exact absurd ((read_eq_ok_iff offset test unseparated noBracket).mp outcome) (rejected test)
    | error fault =>
      obtain ⟨place, problem⟩ := fault
      obtain ⟨rfl, flaw⟩ := flaw_of_read unseparated noBracket outcome
      cases flaw with
      | empty blank => exact absurd blank notBlank
      | parent parent => exact absurd parent notParent
      | name => rfl

end StepTest

/-! ## Pieces -/

namespace Step

theorem beforeBracket?_eq_none_iff {text : Text} :
    beforeBracket? text = none ↔ text.getLast? ≠ some ']' := by
  simp [beforeBracket?]

theorem readPosition?_eq_none_iff {text : Text} :
    readPosition? text = none ↔ ∀ position, ¬ Text.Spaced (PositionForm position) text := by
  rw [Option.eq_none_iff_forall_ne_some]
  simp only [ne_eq, readPosition?_eq_some_iff]

theorem getLast?_behind_bracket {front behind : Text} :
    (front ++ ['['] ++ behind).getLast? = some ']' ↔ behind.getLast? = some ']' := by
  rw [List.getLast?_append]
  cases behind.getLast? with
  | none => simp
  | some c => simp

variable {piece : Text}

theorem flaw_of_read (unseparated : Unseparated piece) {offset : Nat} {fault : PathFault}
    (failed : read offset piece = .error fault) :
    ∃ place, fault.offset = offset + place ∧ Flaw piece fault.problem place := by
  unfold read at failed
  split at failed
  · rename_i uncut
    have noBracket := Text.cut?_char_eq_none_iff.mp uncut
    obtain ⟨place, flaw⟩ :=
      StepTest.flaw_of_read unseparated noBracket (error_of_map_eq_error failed)
    exact ⟨0, place, .test noBracket flaw⟩
  · rename_i front behind found
    obtain ⟨rfl, noBracket⟩ := Text.cut?_char_eq_some_iff.mp found
    dsimp only at failed
    split at failed
    · rename_i unclosed
      cases failed
      have ends := beforeBracket?_eq_none_iff.mp unclosed
      exact ⟨front.byteLength, rfl, .unterminated noBracket (mt getLast?_behind_bracket.mp ends)⟩
    · rename_i inner closed
      obtain rfl := beforeBracket?_eq_some_iff.mp closed
      split at failed
      · rename_i unread
        cases failed
        exact ⟨front.byteLength + 1, Nat.add_assoc .., .position noBracket
          (readPosition?_eq_none_iff.mp unread)⟩
      · rename_i position read
        rw [List.append_assoc] at unseparated
        obtain ⟨place, flaw⟩ := StepTest.flaw_of_read unseparated.of_append_left noBracket
          (error_of_map_eq_error failed)
        exact ⟨0, place, .testOfPositioned noBracket (readPosition?_eq_some_iff.mp read) flaw⟩

theorem Flaw.read_eq_error (unseparated : Unseparated piece) {problem : PathProblem} {place : Nat}
    (flaw : Flaw piece problem place) (offset : Nat) :
    read offset piece = .error ⟨offset + place, problem⟩ := by
  cases flaw with
  | @unterminated front behind noBracket ends =>
    have unclosed := beforeBracket?_eq_none_iff.mpr (mt getLast?_behind_bracket.mpr ends)
    rw [read, Text.cut?_char_eq_some_iff.mpr ⟨rfl, noBracket⟩]
    simp only [unclosed]
  | @position front inner noBracket unread =>
    rw [read, Text.cut?_char_eq_some_iff.mpr ⟨rfl, noBracket⟩]
    simp only [beforeBracket?_eq_some_iff.mpr rfl, readPosition?_eq_none_iff.mpr unread,
      Nat.add_assoc]
  | test noBracket flaw =>
    rw [read, Text.cut?_char_eq_none_iff.mpr noBracket]
    simp only [flaw.read_eq_error unseparated noBracket]
    rfl
  | @testOfPositioned front inner position problem noBracket written flaw =>
    rw [List.append_assoc] at unseparated
    rw [read, Text.cut?_char_eq_some_iff.mpr ⟨rfl, noBracket⟩]
    simp only [beforeBracket?_eq_some_iff.mpr rfl, readPosition?_eq_some_iff.mpr written,
      flaw.read_eq_error unseparated.of_append_left noBracket]
    rfl

theorem Flaw.not_form (unseparated : Unseparated piece) {problem : PathProblem} {place : Nat}
    (flaw : Flaw piece problem place) : ¬ ∃ step : Step, step.Form piece := by
  rintro ⟨step, form⟩
  have failed := flaw.read_eq_error unseparated 0
  rw [(read_eq_ok_iff 0 step unseparated).mpr form] at failed
  cases failed

theorem Flaw.exists_front {problem : PathProblem} {place : Nat} (flaw : Flaw piece problem place) :
    ∃ front behind, piece = front ++ behind ∧ front.byteLength = place := by
  cases flaw with
  | @unterminated front behind => exact ⟨front, ['['] ++ behind, by simp, rfl⟩
  | @position front inner =>
    exact ⟨front ++ ['['], inner ++ [']'], rfl, by rw [Text.byteLength_append]; rfl⟩
  | test => exact ⟨[], piece, rfl, rfl⟩
  | testOfPositioned => exact ⟨[], _, rfl, rfl⟩

end Step

/-! ## Sequences of pieces -/

theorem readEach_eq_error_iff {α : Type} {read : Nat → Text → Except PathFault α} {offset : Nat}
    {texts : List Text} {fault : PathFault} :
    readEach read offset texts = .error fault ↔
      ∃ before text after, texts = before ++ text :: after ∧
        (∃ values, readEach read offset before = .ok values) ∧
        read (offset + extent before) text = .error fault := by
  constructor
  · intro failed
    induction texts generalizing offset with
    | nil => cases failed
    | cons text texts ih =>
      rw [readEach] at failed
      cases own : read offset text with
      | error raised =>
        rw [own] at failed
        cases failed
        exact ⟨[], text, texts, rfl, ⟨[], rfl⟩, own⟩
      | ok first =>
        rw [own] at failed
        obtain ⟨before, blamed, after, rfl, ⟨values, earlier⟩, here⟩ :=
          ih (error_of_map_eq_error failed)
        refine ⟨text :: before, blamed, after, rfl, ⟨first :: values, ?_⟩, ?_⟩
        · rw [readEach, own, earlier]
          rfl
        · rw [extent, ← here]
          congr 1
          omega
  · intro blamed
    obtain ⟨before, text, after, rfl, ⟨values, earlier⟩, here⟩ := blamed
    rw [readEach_append, earlier, readEach, here]
    rfl

theorem extent_eq_byteLength {separator : Char} (single : separator.utf8Size = 1)
    (texts : List Text) :
    extent texts = Text.byteLength (texts.flatMap fun text => text ++ [separator]) := by
  induction texts with
  | nil => rfl
  | cons text texts ih =>
    rw [List.flatMap_cons, Text.byteLength_append, Text.byteLength_append, ← ih, extent]
    simp [single]

theorem exists_forall₂ {α : Type} {Form : α → Text → Prop} {texts : List Text}
    (formed : ∀ text ∈ texts, ∃ value, Form value text) :
    ∃ values, List.Forall₂ Form values texts := by
  induction texts with
  | nil => exact ⟨[], .nil⟩
  | cons text texts ih =>
    obtain ⟨⟨value, form⟩, others⟩ := List.forall_mem_cons.mp formed
    obtain ⟨values, forms⟩ := ih others
    exact ⟨value :: values, .cons form forms⟩

theorem Step.exists_readEach_iff {pieces : List Text}
    (unseparated : ∀ piece ∈ pieces, Unseparated piece) (offset : Nat) :
    (∃ steps, readEach Step.read offset pieces = .ok steps) ↔
      ∀ piece ∈ pieces, ∃ step : Step, step.Form piece := by
  have readable : ∀ piece ∈ pieces, ∀ offset step,
      Step.read offset piece = .ok step ↔ step.Form piece :=
    fun piece member offset step => Step.read_eq_ok_iff offset step (unseparated piece member)
  constructor
  · rintro ⟨steps, accepted⟩
    have forms := (readEach_eq_ok_iff readable offset steps).mp accepted
    exact forall_mem_of_forall₂ forms fun step _ form => ⟨step, form⟩
  · intro formed
    obtain ⟨steps, forms⟩ := exists_forall₂ formed
    exact ⟨steps, (readEach_eq_ok_iff readable offset steps).mpr forms⟩

/-! ## Paths -/

theorem Text.leadingBlanks_append {before core after : Text} (blank : Text.AllBlank before)
    (trimmed : Text.Trimmed core) (nonempty : core ≠ []) :
    Text.leadingBlanks (before ++ core ++ after) = before := by
  rw [leadingBlanks, List.append_assoc, List.takeWhile_append_of_pos blank]
  cases core with
  | nil => exact absurd rfl nonempty
  | cons c core =>
    have visible : isBlank c = false := trimmed.first c rfl
    simp [visible]

namespace Path

theorem read_of_allBlank {text : Text} (blank : Text.AllBlank text) (offset : Nat) :
    read offset text = .error ⟨offset + text.byteLength, .emptyPath⟩ := by
  have leading : Text.leadingBlanks text = text := List.takeWhile_eq_self_iff.mpr blank
  rw [read]
  simp only [blank.trim_eq_nil, leading, if_true]

theorem Division.Divides.fields_steps {division : Division} {text : Text}
    (divides : division.Divides text) :
    Text.fields '/' division.steps = division.others ++ division.piece :: division.further :=
  Text.fields_eq_iff.mpr ⟨by simp, divides.noSlash, rfl⟩

/-- A text that is not blank is read by its pieces. -/
theorem read_eq_readEach {before start steps after : Text} (blankBefore : Text.AllBlank before)
    (blankAfter : Text.AllBlank after) (trimmed : Text.Trimmed (start ++ steps))
    (nonempty : start ++ steps ≠ []) (starts : Starts start steps) (offset : Nat) :
    read offset (before ++ (start ++ steps) ++ after) =
      readEach Step.read (offset + (before ++ start).byteLength) (Text.fields '/' steps) := by
  rw [read]
  simp only [trimmed.trim_append blankBefore blankAfter,
    Text.leadingBlanks_append blankBefore trimmed nonempty, if_neg nonempty, lead_append starts,
    List.drop_left, Text.byteLength_append, Nat.add_assoc]

theorem exists_parts {text : Text} (notBlank : ¬ Text.AllBlank text) :
    ∃ before start steps after, text = before ++ (start ++ steps) ++ after ∧
      Text.AllBlank before ∧ Text.AllBlank after ∧ Text.Trimmed (start ++ steps) ∧
      start ++ steps ≠ [] ∧ Starts start steps := by
  obtain ⟨before, after, blankBefore, blankAfter, whole⟩ := Text.exists_eq_append_trim text
  obtain ⟨steps, parts, starts⟩ := exists_starts text.trim
  have trimmed := Text.trimmed_trim text
  have nonempty := mt Text.allBlank_iff_trim.mpr notBlank
  rw [parts] at whole trimmed nonempty
  exact ⟨before, _, steps, after, whole, blankBefore, blankAfter, trimmed, nonempty, starts⟩

theorem Division.Divides.unseparated {division : Division} {text : Text}
    (divides : division.Divides text) (noBar : '|' ∉ text) :
    ∀ part ∈ division.others ++ division.piece :: division.further, Unseparated part := by
  intro part member
  refine ⟨fun bar => noBar ?_, divides.noSlash part member⟩
  rw [← divides.fields_steps] at member
  rw [divides.whole]
  have inSteps := (Text.of_mem_fields member '|' bar).2
  simp [inSteps]

theorem Division.byteLength_front (division : Division) :
    division.front.byteLength =
      (division.before ++ division.start).byteLength + extent division.others := by
  rw [front, Text.byteLength_append, ← extent_eq_byteLength rfl]

theorem blames_of_read {text : Text} (noBar : '|' ∉ text) {fault : PathFault}
    (failed : read 0 text = .error fault) : Blames text fault := by
  by_cases blank : Text.AllBlank text
  · rw [read_of_allBlank blank, Nat.zero_add] at failed
    cases failed
    exact .blank blank
  · obtain ⟨before, start, steps, after, whole, blankBefore, blankAfter, trimmed, nonempty, starts⟩ :=
      exists_parts blank
    rw [whole, read_eq_readEach blankBefore blankAfter trimmed nonempty starts, Nat.zero_add]
      at failed
    obtain ⟨others, piece, further, divided, earlier, here⟩ := readEach_eq_error_iff.mp failed
    let division : Division := ⟨before, start, others, piece, further, after⟩
    obtain ⟨_, noSlash, rfl⟩ := Text.fields_eq_iff.mp divided
    have divides : division.Divides text :=
      ⟨whole, blankBefore, blankAfter, trimmed, nonempty, starts, noSlash⟩
    obtain ⟨unseparatedOthers, rest⟩ := List.forall_mem_append.mp (divides.unseparated noBar)
    have unseparated : Unseparated piece := rest piece List.mem_cons_self
    obtain ⟨place, offset, flaw⟩ := Step.flaw_of_read unseparated here
    have formed := (Step.exists_readEach_iff unseparatedOthers _).mp earlier
    rw [← division.byteLength_front] at offset
    obtain ⟨_, problem⟩ := fault
    obtain rfl := offset
    exact .piece divides formed (flaw.not_form unseparated) flaw

theorem Blames.read_eq_error {text : Text} (noBar : '|' ∉ text) {fault : PathFault}
    (blames : Blames text fault) : read 0 text = .error fault := by
  cases blames with
  | blank blank => rw [read_of_allBlank blank, Nat.zero_add]
  | @piece division problem place divides formed _ flaw =>
    obtain ⟨unseparatedOthers, rest⟩ := List.forall_mem_append.mp (divides.unseparated noBar)
    have unseparated : Unseparated division.piece := rest division.piece List.mem_cons_self
    have earlier := (Step.exists_readEach_iff unseparatedOthers
      (division.before ++ division.start).byteLength).mpr formed
    rw [divides.whole, read_eq_readEach divides.blankBefore divides.blankAfter divides.trimmed
      divides.nonempty divides.starts, Nat.zero_add, divides.fields_steps, division.byteLength_front]
    exact readEach_eq_error_iff.mpr
      ⟨_, _, _, rfl, earlier, flaw.read_eq_error unseparated _⟩

theorem Blames.exists_front {text : Text} {fault : PathFault} (blames : Blames text fault) :
    ∃ front behind, text = front ++ behind ∧ front.byteLength = fault.offset := by
  cases blames with
  | blank => exact ⟨text, [], (List.append_nil text).symm, rfl⟩
  | @piece division _ _ divides _ _ flaw =>
    obtain ⟨behind, whole⟩ := divides.exists_behind
    obtain ⟨front, rest, parts, place⟩ := flaw.exists_front
    refine ⟨division.front ++ front, rest ++ behind, ?_, ?_⟩
    · rw [whole, parts]
      simp
    · rw [Text.byteLength_append, place]

end Path

namespace PathExpression

theorem parse_eq_error_iff_of_single {source : Text} (single : '|' ∉ source) (error : PathError) :
    parse source = .error error ↔
      error.expression = source ∧ Path.read 0 source = .error error.fault := by
  have divided : Text.fields '|' source = [source] :=
    Text.fields_eq_iff.mpr ⟨by simp, by simpa using single, by simp⟩
  obtain ⟨expression, fault⟩ := error
  rw [parse, divided, readEach]
  cases Path.read 0 source with
  | error raised => simp [eq_comm]
  | ok path => simp [readEach, Except.map]

/-- An expression of one path fails exactly where it is at fault: at its end if it is blank, and
otherwise in its first malformed piece. Every fault lies between two characters. -/
theorem parse_eq_error_blames_first {source : Text} (single : '|' ∉ source) (error : PathError) :
    (parse source = .error error ↔
      error.expression = source ∧ Path.Blames source error.fault) ∧
    (parse source = .error error →
      (∃ front behind, source = front ++ behind ∧ front.byteLength = error.fault.offset) ∧
        error.fault.offset ≤ source.byteLength) := by
  have blamed : parse source = .error error ↔
      error.expression = source ∧ Path.Blames source error.fault := by
    rw [parse_eq_error_iff_of_single single]
    exact and_congr_right fun _ =>
      ⟨Path.blames_of_read single, Path.Blames.read_eq_error single⟩
  refine ⟨blamed, fun failed => ?_⟩
  obtain ⟨front, behind, whole, place⟩ := (blamed.mp failed).2.exists_front
  refine ⟨⟨front, behind, whole, place⟩, ?_⟩
  rw [← place, whole, Text.byteLength_append]
  exact Nat.le_add_right _ _

/-- A piece with a bad name and a bad position, behind a start and a character of two bytes. -/
theorem parse_eq_error_blames_first_position :
    let source : Text := " ./é/ a b[0]/..".toList
    parse source = .error ⟨source, 11, .badPosition⟩ ∧ '|' ∉ source ∧
      Path.Blames source ⟨11, .badPosition⟩ ∧
      (∃ front behind : Text, source = front ++ behind ∧ front.byteLength = 11) ∧
      11 ≤ source.byteLength := by
  intro source
  have failed : parse source = .error ⟨source, 11, .badPosition⟩ := by decide +kernel
  have single : '|' ∉ source := by decide
  obtain ⟨blamed, place⟩ := parse_eq_error_blames_first single ⟨source, 11, .badPosition⟩
  obtain ⟨boundary, inside⟩ := place failed
  exact ⟨failed, single, (blamed.mp failed).2, boundary, inside⟩

end PathExpression

end QueryTemplate
