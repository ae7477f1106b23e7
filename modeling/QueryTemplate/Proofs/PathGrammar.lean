import Mathlib.Data.List.Forall2
import QueryTemplate.Path.Parse
import QueryTemplate.Path.Select
import QueryTemplate.Proofs.TagForm

/-! The grammar of path expressions. Reading divides, strips and trims a text and searches it for
brackets; the forms below say what may be written, from the test of a step up to a whole
expression. Each reader accepts its form and nothing else, at whatever offset it starts. -/

set_option autoImplicit false

namespace QueryTemplate

/-! ## Forms -/

/-- The names that a step can ask for. -/
structure IsStepName (name : Text) : Prop where
  nonempty : name ≠ []
  notSelf : name ≠ ['.']
  notParent : name ≠ ['.', '.']
  plain : ∀ c ∈ name, Text.isBlank c = false ∧ c ∉ ['|', '/', '[', ']', '*']

inductive StepTest.Form : StepTest → Text → Prop where
  | self : Form .self ['.']
  | wildcard : Form .wildcard ['*']
  | name {name : Text} : IsStepName name → Form (.name name) name

/-- The ways to write a position: its digits, leading zeros allowed, and a plus sign at most. -/
structure PositionForm (position : Nat) (text : Text) : Prop where
  written : ∃ sign digits, (sign = [] ∨ sign = ['+']) ∧ (∀ c ∈ digits, c.isDigit = true) ∧
    digits ≠ [] ∧ text = sign ++ digits ∧ Text.ofDigits digits = position
  positive : 1 ≤ position
  bounded : position < 0x10000000000000000

/-- That a text has a form, blanks at its two ends apart. -/
def Text.Spaced (Form : Text → Prop) (text : Text) : Prop :=
  ∃ before core after, text = before ++ core ++ after ∧ Text.AllBlank before ∧
    Text.AllBlank after ∧ Form core

/-- The ways to write a step. Nothing follows a closing bracket. -/
inductive Step.Form : Step → Text → Prop where
  | plain {test : StepTest} {text : Text} : Text.Spaced test.Form text → Form ⟨test, none⟩ text
  | positioned {test : StepTest} {position : Nat} {front inner : Text} :
      Text.Spaced test.Form front → Text.Spaced (PositionForm position) inner →
      Form ⟨test, some position⟩ (front ++ ['['] ++ (inner ++ [']']))

/-- What the steps of a path stand behind. A start is taken away once, and always. -/
def Path.Starts (start steps : Text) : Prop :=
  start = ['.', '/'] ∨ start = ['/'] ∨
    start = [] ∧ ¬ ['.', '/'] <+: steps ∧ ¬ ['/'] <+: steps

/-- The ways to write a path without blanks at its ends: a start, and at least one step, with slashes
between the steps. -/
structure Path.Written (path : Path) (text : Text) : Prop where
  trimmed : Text.Trimmed text
  steps : ∃ start pieces, text = start ++ ['/'].intercalate pieces ∧
    Path.Starts start (['/'].intercalate pieces) ∧ pieces ≠ [] ∧
    List.Forall₂ Step.Form path pieces

def Path.Form (path : Path) : Text → Prop := Text.Spaced path.Written

/-- The ways to write an expression: at least one path, with bars between the paths. -/
def PathExpression.Form (expression : PathExpression) (text : Text) : Prop :=
  ∃ parts, parts ≠ [] ∧ text = ['|'].intercalate parts ∧
    List.Forall₂ Path.Form expression.paths parts

/-! ## Blanks around forms -/

theorem Text.spaced_iff_trim {Form : Text → Prop}
    (trimmed : ∀ core, Form core → Text.Trimmed core) {text : Text} :
    Text.Spaced Form text ↔ Form text.trim := by
  constructor
  · intro spaced
    obtain ⟨before, core, after, rfl, blankBefore, blankAfter, form⟩ := spaced
    rw [(trimmed core form).trim_append blankBefore blankAfter]
    exact form
  · intro form
    obtain ⟨before, after, blankBefore, blankAfter, whole⟩ := Text.exists_eq_append_trim text
    exact ⟨before, text.trim, after, whole, blankBefore, blankAfter, form⟩

theorem Text.mem_of_mem_trim {text : Text} {c : Char} (member : c ∈ text.trim) : c ∈ text := by
  obtain ⟨before, after, _, _, whole⟩ := Text.exists_eq_append_trim text
  rw [whole]
  exact List.mem_append_left _ (List.mem_append_right _ member)

theorem Text.Spaced.not_mem {Form : Text → Prop} {text : Text} (spaced : Text.Spaced Form text)
    {c : Char} (visible : isBlank c = false) (clear : ∀ core, Form core → c ∉ core) :
    c ∉ text := by
  obtain ⟨before, core, after, rfl, blankBefore, blankAfter, form⟩ := spaced
  simp only [List.mem_append, not_or]
  exact ⟨⟨blankBefore.not_mem visible, clear core form⟩, blankAfter.not_mem visible⟩

/-! ## Separators -/

/-- That a text holds none of the separators of paths and of steps. -/
structure Unseparated (text : Text) : Prop where
  noBar : '|' ∉ text
  noSlash : '/' ∉ text

theorem Unseparated.append {front back : Text} (first : Unseparated front)
    (second : Unseparated back) : Unseparated (front ++ back) := by
  constructor
  · rw [List.mem_append, not_or]
    exact ⟨first.noBar, second.noBar⟩
  · rw [List.mem_append, not_or]
    exact ⟨first.noSlash, second.noSlash⟩

theorem Unseparated.of_append_left {front back : Text} (whole : Unseparated (front ++ back)) :
    Unseparated front :=
  ⟨fun bar => whole.noBar (List.mem_append_left _ bar),
    fun slash => whole.noSlash (List.mem_append_left _ slash)⟩

theorem Text.Spaced.unseparated {Form : Text → Prop} {text : Text}
    (spaced : Text.Spaced Form text) (clear : ∀ core, Form core → Unseparated core) :
    Unseparated text :=
  ⟨spaced.not_mem rfl fun core form => (clear core form).noBar,
    spaced.not_mem rfl fun core form => (clear core form).noSlash⟩

theorem StepTest.Form.ne_nil {test : StepTest} {written : Text} (form : test.Form written) :
    written ≠ [] := by
  cases form with
  | self => simp
  | wildcard => simp
  | name valid => exact valid.nonempty

theorem StepTest.Form.trimmed {test : StepTest} {written : Text} (form : test.Form written) :
    Text.Trimmed written := by
  apply Text.trimmed_of_visible
  intro c member
  cases form with
  | self =>
    cases List.mem_singleton.mp member
    rfl
  | wildcard =>
    cases List.mem_singleton.mp member
    rfl
  | name valid => exact (valid.plain c member).1

theorem StepTest.Form.bracket_not_mem {test : StepTest} {written : Text}
    (form : test.Form written) : '[' ∉ written := by
  cases form with
  | self => decide
  | wildcard => decide
  | name valid => exact fun member => (valid.plain '[' member).2 (by decide)

theorem StepTest.Form.unseparated {test : StepTest} {written : Text}
    (form : test.Form written) : Unseparated written := by
  cases form with
  | self => exact ⟨by decide, by decide⟩
  | wildcard => exact ⟨by decide, by decide⟩
  | name valid =>
    constructor
    · exact fun member => (valid.plain '|' member).2 (by decide)
    · exact fun member => (valid.plain '/' member).2 (by decide)

theorem isBlank_eq_false_of_isDigit {c : Char} (digit : c.isDigit = true) :
    Text.isBlank c = false :=
  IsNameChar.isBlank_eq_false (.inl (by simp [Char.isAlphanum, digit]))

theorem PositionForm.digit_or_plus {position : Nat} {text : Text}
    (form : PositionForm position text) : ∀ c ∈ text, c.isDigit = true ∨ c = '+' := by
  obtain ⟨sign, digits, plus, digital, _, rfl, _⟩ := form.written
  intro c member
  rcases List.mem_append.mp member with inSign | inDigits
  · rcases plus with rfl | rfl
    · cases inSign
    · exact .inr (List.mem_singleton.mp inSign)
  · exact .inl (digital c inDigits)

theorem PositionForm.trimmed {position : Nat} {text : Text} (form : PositionForm position text) :
    Text.Trimmed text := by
  apply Text.trimmed_of_visible
  intro c member
  rcases form.digit_or_plus c member with digit | rfl
  · exact isBlank_eq_false_of_isDigit digit
  · rfl

theorem PositionForm.unseparated {position : Nat} {text : Text}
    (form : PositionForm position text) : Unseparated text := by
  constructor
  · intro member
    rcases form.digit_or_plus _ member with digit | plus
    · cases digit
    · cases plus
  · intro member
    rcases form.digit_or_plus _ member with digit | plus
    · cases digit
    · cases plus

theorem Step.Form.unseparated {step : Step} {piece : Text} (form : step.Form piece) :
    Unseparated piece := by
  cases form with
  | plain test => exact test.unseparated fun _ form => form.unseparated
  | positioned test position =>
    have opened : Unseparated ['['] := ⟨by decide, by decide⟩
    have closed : Unseparated [']'] := ⟨by decide, by decide⟩
    have front := (test.unseparated fun _ form => form.unseparated).append opened
    have inner := (position.unseparated fun _ form => form.unseparated).append closed
    exact front.append inner

theorem Step.Form.ne_nil {step : Step} {piece : Text} (form : step.Form piece) : piece ≠ [] := by
  cases form with
  | plain test =>
    obtain ⟨before, core, after, rfl, _, _, form⟩ := test
    simp [form.ne_nil]
  | positioned => simp

/-! ## Reading a step -/

theorem StepTest.read_eq_ok_iff {text : Text} (offset : Nat) (test : StepTest)
    (unseparated : Unseparated text) (noBracket : '[' ∉ text) :
    StepTest.read offset text = .ok test ↔ Text.Spaced test.Form text := by
  rw [Text.spaced_iff_trim fun _ form => form.trimmed]
  unfold StepTest.read
  constructor
  · intro accepted
    split at accepted
    · cases accepted
    · rename_i self
      cases accepted
      rw [self]
      exact .self
    · cases accepted
    · rename_i star
      cases accepted
      rw [star]
      exact .wildcard
    · rename_i notEmpty notSelf notParent _
      split at accepted
      · cases accepted
      · rename_i clear
        cases accepted
        refine .name ⟨notEmpty, notSelf, notParent, ?_⟩
        intro c member
        have plain : (c ≠ ']' ∧ c ≠ '*') ∧ Text.isBlank c = false := by
          simpa using List.any_eq_false.mp (eq_false_of_ne_true clear) c member
        have inside := Text.mem_of_mem_trim member
        refine ⟨plain.2, ?_⟩
        simp only [List.mem_cons, List.not_mem_nil, or_false, not_or]
        refine ⟨?_, ?_, ?_, plain.1.1, plain.1.2⟩
        · exact fun bar => unseparated.noBar (bar ▸ inside)
        · exact fun slash => unseparated.noSlash (slash ▸ inside)
        · exact fun bracket => noBracket (bracket ▸ inside)
  · intro form
    generalize text.trim = written at form
    cases form with
    | self => rfl
    | wildcard => rfl
    | name valid =>
      have plain := valid.plain
      split
      · exact absurd rfl valid.nonempty
      · exact absurd rfl valid.notSelf
      · exact absurd rfl valid.notParent
      · exact absurd (plain '*' (by simp)).2 (by decide)
      · rw [if_neg]
        simp only [List.any_eq_true, not_exists, not_and, Bool.not_eq_true]
        intro c member
        obtain ⟨visible, other⟩ := plain c member
        simp only [List.mem_cons, List.not_mem_nil, or_false, not_or] at other
        simp [visible, other]

theorem Text.readWord?_eq_some_iff {text : Text} {word : UInt64} :
    Text.readWord? text = some word ↔
      ∃ sign digits, (sign = [] ∨ sign = ['+']) ∧ (∀ c ∈ digits, c.isDigit = true) ∧
        digits ≠ [] ∧ text = sign ++ digits ∧ Text.ofDigits digits = word.toNat := by
  constructor
  · intro accepted
    unfold readWord? at accepted
    dsimp only at accepted
    split at accepted
    · rename_i digital
      split at accepted
      · cases accepted
        have sign : text = [] ++ withoutPlus text ∨ text = ['+'] ++ withoutPlus text := by
          unfold withoutPlus
          split
          · exact .inr rfl
          · exact .inl rfl
        have digits : ∀ c ∈ withoutPlus text, c.isDigit = true := List.all_eq_true.mp digital.2
        rcases sign with bare | plus
        · exact ⟨[], withoutPlus text, .inl rfl, digits, digital.1, bare, by simp⟩
        · exact ⟨['+'], withoutPlus text, .inr rfl, digits, digital.1, plus, by simp⟩
      · cases accepted
    · cases accepted
  · intro written
    obtain ⟨sign, digits, plus, digital, nonempty, rfl, value⟩ := written
    have bare : withoutPlus (sign ++ digits) = digits := by
      rcases plus with rfl | rfl
      · unfold withoutPlus
        split
        · rename_i rest equal
          have first := digital '+' (by rw [List.nil_append] at equal; simp [equal])
          cases first
        · rfl
      · rfl
    have fits : ofDigits digits < UInt64.size := value ▸ word.toNat_lt_size
    unfold readWord?
    simp only [bare]
    rw [if_pos ⟨nonempty, List.all_eq_true.mpr digital⟩, dif_pos fits]
    congr 1
    apply UInt64.toNat_inj.mp
    simpa using value

theorem Step.readPosition?_eq_some_iff {text : Text} {position : Nat} :
    Step.readPosition? text = some position ↔ Text.Spaced (PositionForm position) text := by
  rw [Text.spaced_iff_trim fun _ form => form.trimmed]
  unfold readPosition?
  constructor
  · intro accepted
    split at accepted
    · rename_i word read
      split at accepted
      · cases accepted
      · rename_i positive
        cases accepted
        refine ⟨Text.readWord?_eq_some_iff.mp read, ?_, word.toNat_lt⟩
        have nonzero : word.toNat ≠ 0 := fun zero => positive (UInt64.toNat_inj.mp zero)
        omega
    · cases accepted
  · intro form
    have back : (UInt64.ofNat position).toNat = position :=
      UInt64.toNat_ofNat_of_lt' form.bounded
    have read : Text.readWord? text.trim = some (UInt64.ofNat position) := by
      rw [Text.readWord?_eq_some_iff, back]
      exact form.written
    have positive := form.positive
    have nonzero : UInt64.ofNat position ≠ 0 := by
      intro zero
      rw [zero] at back
      simp at back
      omega
    rw [read]
    simp only [nonzero, if_false, back]

theorem Step.beforeBracket?_eq_some_iff {text inner : Text} :
    Step.beforeBracket? text = some inner ↔ text = inner ++ [']'] := by
  constructor
  · intro accepted
    unfold beforeBracket? at accepted
    split at accepted
    · rename_i ends
      cases accepted
      exact (List.dropLast_append_getLast? _ ends).symm
    · cases accepted
  · intro written
    subst written
    simp [beforeBracket?]

theorem Step.read_eq_ok_iff {piece : Text} (offset : Nat) (step : Step)
    (unseparated : Unseparated piece) :
    Step.read offset piece = .ok step ↔ step.Form piece := by
  constructor
  · intro accepted
    unfold Step.read at accepted
    split at accepted
    · rename_i uncut
      have noBracket := Text.cut?_char_eq_none_iff.mp uncut
      obtain ⟨test, read, rfl⟩ := ok_of_map_eq_ok accepted
      exact .plain ((StepTest.read_eq_ok_iff offset test unseparated noBracket).mp read)
    · rename_i front behind found
      obtain ⟨rfl, noBracket⟩ := Text.cut?_char_eq_some_iff.mp found
      rw [List.append_assoc] at unseparated
      split at accepted
      · cases accepted
      · rename_i inner closed
        split at accepted
        · cases accepted
        · rename_i position read
          obtain ⟨test, readTest, rfl⟩ := ok_of_map_eq_ok accepted
          rw [Step.beforeBracket?_eq_some_iff.mp closed]
          exact .positioned
            ((StepTest.read_eq_ok_iff offset test unseparated.of_append_left noBracket).mp readTest)
            (Step.readPosition?_eq_some_iff.mp read)
  · intro form
    cases form with
    | @plain test piece spaced =>
      have noBracket := spaced.not_mem rfl fun _ form => form.bracket_not_mem
      have read := (StepTest.read_eq_ok_iff offset test unseparated noBracket).mpr spaced
      rw [Step.read, Text.cut?_char_eq_none_iff.mpr noBracket]
      simp only [read]
      rfl
    | @positioned test position front inner spaced written =>
      have noBracket := spaced.not_mem rfl fun _ form => form.bracket_not_mem
      rw [List.append_assoc] at unseparated
      have read := (StepTest.read_eq_ok_iff offset test unseparated.of_append_left noBracket).mpr
        spaced
      rw [Step.read, Text.cut?_char_eq_some_iff.mpr ⟨rfl, noBracket⟩]
      simp only [Step.beforeBracket?_eq_some_iff.mpr rfl,
        Step.readPosition?_eq_some_iff.mpr written, read]
      rfl

/-! ## Reading paths and expressions -/

/-- A reader that accepts a form wherever it starts reads texts that have the form one by one. -/
theorem readEach_eq_ok_iff {α : Type} {read : Nat → Text → Except PathFault α}
    {Form : α → Text → Prop} {texts : List Text}
    (accepts : ∀ text ∈ texts, ∀ offset value, read offset text = .ok value ↔ Form value text)
    (offset : Nat) (values : List α) :
    readEach read offset texts = .ok values ↔ List.Forall₂ Form values texts := by
  induction texts generalizing offset values with
  | nil =>
    constructor
    · intro accepted
      cases accepted
      exact .nil
    · intro forms
      cases forms
      rfl
  | cons text texts ih =>
    obtain ⟨own, others⟩ := List.forall_mem_cons.mp accepts
    have further := ih others (offset + text.byteLength + 1)
    constructor
    · intro accepted
      rw [readEach] at accepted
      split at accepted
      · cases accepted
      · rename_i first read
        obtain ⟨rest, readRest, rfl⟩ := ok_of_map_eq_ok accepted
        exact .cons ((own offset first).mp read) ((further rest).mp readRest)
    · intro forms
      cases forms with
      | cons form forms =>
        rw [readEach, (own offset _).mpr form, (further _).mpr forms]
        rfl

theorem Path.exists_starts (text : Text) :
    ∃ steps, text = lead text ++ steps ∧ Path.Starts (lead text) steps := by
  unfold lead
  split
  · exact ⟨_, rfl, .inl rfl⟩
  · exact ⟨_, rfl, .inr (.inl rfl)⟩
  · rename_i noPeriod noSlash
    refine ⟨text, rfl, .inr (.inr ⟨rfl, ?_, ?_⟩)⟩
    · intro front
      obtain ⟨rest, rfl⟩ := front
      exact noPeriod rest rfl
    · intro front
      obtain ⟨rest, rfl⟩ := front
      exact noSlash rest rfl

theorem Path.lead_append {start steps : Text} (starts : Path.Starts start steps) :
    lead (start ++ steps) = start := by
  rcases starts with rfl | rfl | ⟨rfl, noPeriod, noSlash⟩
  · rfl
  · rfl
  · unfold lead
    split
    · rename_i rest equal
      exact absurd ⟨rest, equal.symm⟩ noPeriod
    · rename_i rest equal
      exact absurd ⟨rest, equal.symm⟩ noSlash
    · rfl

theorem forall_mem_of_forall₂ {α : Type} {Form : α → Text → Prop} {P : Text → Prop}
    {values : List α} {texts : List Text} (forms : List.Forall₂ Form values texts)
    (implies : ∀ value text, Form value text → P text) : ∀ text ∈ texts, P text := by
  induction forms with
  | nil => simp
  | cons form _ ih => exact List.forall_mem_cons.mpr ⟨implies _ _ form, ih⟩

theorem Path.read_eq_ok_iff {part : Text} (offset : Nat) (path : Path) (noBar : '|' ∉ part) :
    Path.read offset part = .ok path ↔ path.Form part := by
  rw [Path.Form, Text.spaced_iff_trim fun _ written => written.trimmed]
  have noBar : '|' ∉ part.trim := fun bar => noBar (Text.mem_of_mem_trim bar)
  unfold Path.read
  dsimp only
  constructor
  · intro accepted
    obtain ⟨steps, divided, starts⟩ := Path.exists_starts part.trim
    have behind : part.trim.drop (lead part.trim).length = steps := by
      have dropped : (lead part.trim ++ steps).drop (lead part.trim).length = steps :=
        List.drop_left
      rwa [← divided] at dropped
    split at accepted
    · cases accepted
    · rw [behind] at accepted
      have readable : ∀ piece ∈ Text.fields '/' steps, ∀ offset step,
          Step.read offset piece = .ok step ↔ step.Form piece := by
        intro piece member offset step
        have fromSteps := Text.of_mem_fields member
        apply Step.read_eq_ok_iff
        constructor
        · intro bar
          apply noBar
          rw [divided]
          exact List.mem_append_right _ (fromSteps '|' bar).2
        · intro slash
          exact (fromSteps '/' slash).1 rfl
      have forms := (readEach_eq_ok_iff readable _ path).mp accepted
      refine ⟨Text.trimmed_trim part, lead part.trim, Text.fields '/' steps, ?_, ?_,
        Text.fields_ne_nil '/' steps, forms⟩
      · rw [Text.join_fields]
        exact divided
      · rw [Text.join_fields]
        exact starts
  · intro written
    obtain ⟨start, pieces, whole, starts, nonempty, forms⟩ := written.steps
    have unseparated := forall_mem_of_forall₂ forms fun _ _ form => form.unseparated
    have divided : Text.fields '/' (['/'].intercalate pieces) = pieces :=
      Text.fields_eq_iff.mpr ⟨nonempty, fun piece member => (unseparated piece member).noSlash, rfl⟩
    have visible : start ++ ['/'].intercalate pieces ≠ [] := by
      intro nothing
      rw [(List.append_eq_nil_iff.mp nothing).2] at divided
      subst divided
      have written := forall_mem_of_forall₂ forms fun _ _ form => form.ne_nil
      exact written [] (by simp [Text.fields]) rfl
    rw [whole, if_neg visible, Path.lead_append starts, List.drop_left, divided]
    have readable : ∀ piece ∈ pieces, ∀ offset step,
        Step.read offset piece = .ok step ↔ step.Form piece :=
      fun piece member offset step => Step.read_eq_ok_iff offset step (unseparated piece member)
    exact (readEach_eq_ok_iff readable _ path).mpr forms

theorem Path.Form.bar_not_mem {path : Path} {part : Text} (form : path.Form part) :
    '|' ∉ part := by
  apply form.not_mem rfl
  intro core written
  obtain ⟨start, pieces, rfl, starts, _, forms⟩ := written.steps
  have inStart : '|' ∉ start := by
    rcases starts with rfl | rfl | ⟨rfl, _⟩ <;> decide
  have inSteps : '|' ∉ ['/'].intercalate pieces := by
    apply Text.not_mem_intercalate (by decide)
    exact forall_mem_of_forall₂ forms fun _ _ form => form.unseparated.noBar
  rw [List.mem_append, not_or]
  exact ⟨inStart, inSteps⟩

theorem PathExpression.parse_eq_ok_iff_form (source : Text) (expression : PathExpression) :
    parse source = .ok expression ↔ expression.Form source := by
  have reads : parse source = .ok expression ↔
      readEach Path.read 0 (Text.fields '|' source) = .ok expression.paths := by
    unfold parse
    cases readEach Path.read 0 (Text.fields '|' source) with
    | error fault => simp
    | ok paths =>
      obtain ⟨expected⟩ := expression
      simp
  rw [reads]
  constructor
  · intro accepted
    have readable : ∀ part ∈ Text.fields '|' source, ∀ offset path,
        Path.read offset part = .ok path ↔ path.Form part := by
      intro part member offset path
      apply Path.read_eq_ok_iff
      intro bar
      exact (Text.of_mem_fields member '|' bar).1 rfl
    exact ⟨Text.fields '|' source, Text.fields_ne_nil '|' source,
      (Text.join_fields '|' source).symm, (readEach_eq_ok_iff readable 0 _).mp accepted⟩
  · intro form
    obtain ⟨parts, nonempty, rfl, forms⟩ := form
    have noBar := forall_mem_of_forall₂ forms fun _ _ form => form.bar_not_mem
    rw [Text.fields_eq_iff.mpr ⟨nonempty, noBar, rfl⟩]
    have readable : ∀ part ∈ parts, ∀ offset path,
        Path.read offset part = .ok path ↔ path.Form part :=
      fun part member offset path => Path.read_eq_ok_iff offset path (noBar part member)
    exact (readEach_eq_ok_iff readable 0 _).mpr forms

/-! ## Accepted expressions -/

private theorem exists_form_of_mem {α : Type} {Form : α → Text → Prop} {values : List α}
    {texts : List Text} (forms : List.Forall₂ Form values texts) :
    ∀ value ∈ values, ∃ text, Form value text := by
  induction forms with
  | nil => simp
  | cons form _ ih => exact List.forall_mem_cons.mpr ⟨⟨_, form⟩, ih⟩

private theorem values_ne_nil {α : Type} {Form : α → Text → Prop} {values : List α}
    {texts : List Text} (forms : List.Forall₂ Form values texts) (nonempty : texts ≠ []) :
    values ≠ [] := by
  intro nothing
  subst nothing
  cases forms
  exact nonempty rfl

theorem Step.Form.position_bounds {step : Step} {piece : Text} (form : step.Form piece)
    {position : Nat} (positioned : step.position = some position) :
    1 ≤ position ∧ position < 0x10000000000000000 := by
  cases form with
  | plain => cases positioned
  | positioned _ spaced =>
    cases positioned
    obtain ⟨_, _, _, _, _, _, written⟩ := spaced
    exact ⟨written.positive, written.bounded⟩

theorem Path.Form.exists_step_form {path : Path} {part : Text} (form : path.Form part) :
    path ≠ [] ∧ ∀ step ∈ path, ∃ piece, step.Form piece := by
  obtain ⟨_, _, _, _, _, _, written⟩ := form
  obtain ⟨_, _, _, _, nonempty, forms⟩ := written.steps
  exact ⟨values_ne_nil forms nonempty, exists_form_of_mem forms⟩

theorem Step.select_of_position {step : Step} {position : Nat}
    (positioned : step.position = some position) (positive : 1 ≤ position) :
    ∃ index, position = index + 1 ∧
      ∀ document, step.select document = ((step.test.select document)[index]?).toList := by
  obtain ⟨index, rfl⟩ := Nat.exists_eq_add_of_le' positive
  refine ⟨index, rfl, ?_⟩
  intro document
  rw [Step.select, positioned]
  rfl

/-- Expressions are accepted by their form alone, and read as what the form says. Each has a path,
each path has a step, and the index that a position stands for is never below zero. -/
theorem PathExpression.parse_accepts_grammar (source : Text) (expression : PathExpression) :
    (parse source = .ok expression ↔ expression.Form source) ∧
      (parse source = .ok expression →
        expression.paths ≠ [] ∧
          ∀ path ∈ expression.paths, path ≠ [] ∧
            ∀ step ∈ path, ∀ position, step.position = some position →
              position < 0x10000000000000000 ∧
                ∃ index, position = index + 1 ∧ ∀ document,
                  step.select document = ((step.test.select document)[index]?).toList) := by
  refine ⟨parse_eq_ok_iff_form source expression, ?_⟩
  intro accepted
  obtain ⟨parts, nonempty, _, forms⟩ := (parse_eq_ok_iff_form source expression).mp accepted
  refine ⟨values_ne_nil forms nonempty, ?_⟩
  intro path member
  obtain ⟨part, form⟩ := exists_form_of_mem forms path member
  obtain ⟨hasStep, stepForms⟩ := form.exists_step_form
  refine ⟨hasStep, ?_⟩
  intro step stepMember position positioned
  obtain ⟨piece, stepForm⟩ := stepForms step stepMember
  obtain ⟨positive, bounded⟩ := stepForm.position_bounds positioned
  exact ⟨bounded, Step.select_of_position positioned positive⟩

/-- A no-break space stands before the first path, an ideographic one behind its last test. -/
theorem PathExpression.parse_accepts_grammar_blanks :
    PathExpression.Form ⟨[[⟨.name ['A'], none⟩, ⟨.wildcard, some 2⟩], [⟨.self, none⟩]]⟩
        "\u00a0./A/*\u3000[ +02 ]| /.".toList ∧
      ∃ index, 2 = index + 1 ∧ ∀ document,
        Step.select ⟨.wildcard, some 2⟩ document =
          ((StepTest.wildcard.select document)[index]?).toList := by
  have accepted : parse "\u00a0./A/*\u3000[ +02 ]| /.".toList =
      .ok ⟨[[⟨.name ['A'], none⟩, ⟨.wildcard, some 2⟩], [⟨.self, none⟩]]⟩ := by decide +kernel
  obtain ⟨grammar, consequence⟩ := parse_accepts_grammar _ _
  obtain ⟨_, steps⟩ := (consequence accepted).2 _ List.mem_cons_self
  exact ⟨grammar.mp accepted, (steps ⟨.wildcard, some 2⟩ (by simp) 2 rfl).2⟩

end QueryTemplate
