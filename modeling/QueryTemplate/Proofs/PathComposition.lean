import QueryTemplate.Proofs.PathGrammar

/-! Paths written one behind the other. The steps of both, with a slash between them, are the steps
of one path: what starts the second path becomes a step to the element itself, and the first path
may be such a step alone. Selecting by the whole is selecting by the second path from each element
that the first one selects. -/

set_option autoImplicit false

namespace QueryTemplate

/-! ## Texts -/

namespace Text

theorem trimmed_of_ends {front back : Text} (nonempty : front ≠ []) (nonemptyBack : back ≠ [])
    (first : ∀ c ∈ front.head?, isBlank c = false)
    (last : ∀ c ∈ back.getLast?, isBlank c = false) (middle : Text) :
    Trimmed (front ++ middle ++ back) := by
  constructor
  · intro c starts
    apply first c
    rwa [List.append_assoc, List.head?_append_of_ne_nil front nonempty] at starts
  · intro c ends
    apply last c
    rwa [List.getLast?_append_of_ne_nil _ nonemptyBack] at ends

theorem Trimmed.append {front back : Text} (first : Trimmed front) (second : Trimmed back)
    (nonempty : front ≠ []) (nonemptyBack : back ≠ []) (middle : Text) :
    Trimmed (front ++ middle ++ back) :=
  trimmed_of_ends nonempty nonemptyBack first.first second.last middle

theorem Trimmed.trimStart_append {core : Text} (trimmed : Trimmed core) (nonempty : core ≠ [])
    {before : Text} (blank : AllBlank before) (after : Text) :
    trimStart (before ++ core ++ after) = core ++ after := by
  rw [trimStart, List.append_assoc, List.dropWhile_append_of_pos blank]
  cases core with
  | nil => exact absurd rfl nonempty
  | cons c core =>
    have visible : isBlank c = false := trimmed.first c rfl
    simp [visible]

/-- A text that does not end in a blank has no blanks behind the form that it is written in. -/
theorem Spaced.of_visible_end {Form : Text → Prop} {text : Text} (spaced : Spaced Form text)
    (ends : ∀ c ∈ text.getLast?, isBlank c = false) :
    ∃ before core, text = before ++ core ∧ AllBlank before ∧ Form core := by
  obtain ⟨before, core, after, rfl, blankBefore, blankAfter, form⟩ := spaced
  rcases List.eq_nil_or_concat' after with rfl | ⟨others, last, rfl⟩
  · exact ⟨before, core, List.append_nil _, blankBefore, form⟩
  · have blank := blankAfter last (by simp)
    have visible := ends last (by simp)
    rw [blank] at visible
    cases visible

theorem intercalate_append {separator : Text} {front back : List Text} (nonempty : front ≠ [])
    (nonemptyBack : back ≠ []) :
    separator.intercalate (front ++ back) =
      separator.intercalate front ++ separator ++ separator.intercalate back := by
  induction front with
  | nil => exact absurd rfl nonempty
  | cons part front ih =>
    cases front with
    | nil =>
      cases back with
      | nil => exact absurd rfl nonemptyBack
      | cons next back => simp [List.intercalate_cons_cons]
    | cons next front =>
      have further := ih (List.cons_ne_nil _ _)
      rw [List.cons_append] at further
      rw [List.cons_append, List.cons_append, List.intercalate_cons_cons, further,
        List.intercalate_cons_cons]
      simp

end Text

/-! ## Sequences of steps -/

namespace Path

/-- The ways to write steps, with slashes between them. -/
def StepsForm (path : Path) (text : Text) : Prop :=
  ∃ pieces, pieces ≠ [] ∧ text = ['/'].intercalate pieces ∧ List.Forall₂ Step.Form path pieces

theorem StepsForm.append {p q : Path} {front back : Text} (first : p.StepsForm front)
    (second : q.StepsForm back) : StepsForm (p ++ q) (front ++ ['/'] ++ back) := by
  obtain ⟨pieces, nonempty, rfl, forms⟩ := first
  obtain ⟨others, nonemptyBack, rfl, otherForms⟩ := second
  refine ⟨pieces ++ others, by simp [nonempty], ?_, List.rel_append forms otherForms⟩
  exact (Text.intercalate_append nonempty nonemptyBack).symm

theorem stepsForm_singleton {step : Step} {piece : Text} (form : step.Form piece) :
    StepsForm [step] piece :=
  ⟨[piece], List.cons_ne_nil _ _, by simp, .cons form .nil⟩

theorem StepsForm.of_singleton {step : Step} {text : Text} (form : StepsForm [step] text) :
    step.Form text := by
  obtain ⟨pieces, _, rfl, forms⟩ := form
  cases forms with
  | cons form rest =>
    cases rest
    simpa using form

theorem StepsForm.ne_nil {path : Path} {text : Text} (form : path.StepsForm text) : text ≠ [] := by
  obtain ⟨pieces, nonempty, rfl, forms⟩ := form
  cases forms with
  | nil => exact absurd rfl nonempty
  | @cons step piece path pieces form forms =>
    have visible := form.ne_nil
    cases pieces with
    | nil => simpa using visible
    | cons next pieces => simp [List.intercalate_cons_cons]

end Path

theorem Text.Spaced.prepend {Form : Text → Prop} {blanks text : Text} (blank : Text.AllBlank blanks)
    (spaced : Text.Spaced Form text) : Text.Spaced Form (blanks ++ text) := by
  obtain ⟨before, core, after, rfl, blankBefore, blankAfter, form⟩ := spaced
  exact ⟨blanks ++ before, core, after, by simp, blank.append blankBefore, blankAfter, form⟩

theorem Step.Form.prepend {step : Step} {blanks piece : Text} (blank : Text.AllBlank blanks)
    (form : step.Form piece) : step.Form (blanks ++ piece) := by
  cases form with
  | plain spaced => exact .plain (spaced.prepend blank)
  | @positioned test position front inner spaced written =>
    have shape : blanks ++ (front ++ ['['] ++ (inner ++ [']'])) =
        blanks ++ front ++ ['['] ++ (inner ++ [']']) := by simp
    rw [shape]
    exact .positioned (spaced.prepend blank) written

theorem Path.StepsForm.prepend {path : Path} {blanks text : Text} (blank : Text.AllBlank blanks)
    (form : path.StepsForm text) : path.StepsForm (blanks ++ text) := by
  obtain ⟨pieces, nonempty, rfl, forms⟩ := form
  cases forms with
  | nil => exact absurd rfl nonempty
  | @cons step piece path pieces form forms =>
    refine ⟨(blanks ++ piece) :: pieces, List.cons_ne_nil _ _, ?_, .cons (form.prepend blank) forms⟩
    cases pieces with
    | nil => simp
    | cons next pieces => simp [List.intercalate_cons_cons]

theorem Step.form_self : Step.Form ⟨.self, none⟩ ['.'] :=
  .plain ⟨[], ['.'], [], rfl, Text.allBlank_nil, Text.allBlank_nil, .self⟩

/-! ## Selecting by steps -/

theorem Path.select_append (front back : Path) (document : Document) :
    (front ++ back).select document = (front.select document).flatMap back.select := by
  induction front generalizing document with
  | nil => simp [select]
  | cons step front ih =>
    simp only [List.cons_append, select, List.flatMap_assoc]
    congr 1
    funext node
    exact ih node

theorem Path.select_self_cons (path : Path) (document : Document) :
    select (⟨.self, none⟩ :: path) document = path.select document := by
  simp [select, Step.select, StepTest.select]

/-- A start in front of steps can be read as a step that leads nowhere, unless it is a slash. -/
theorem Path.exists_stepsForm {path : Path} {before start steps : Text}
    (blank : Text.AllBlank before) (starts : Path.Starts start steps) (noSlash : start ≠ ['/'])
    (form : path.StepsForm steps) :
    ∃ whole : Path, whole.StepsForm (before ++ (start ++ steps)) ∧
      ∀ document, whole.select document = path.select document := by
  rcases starts with rfl | rfl | ⟨rfl, _⟩
  · have first := stepsForm_singleton (Step.form_self.prepend blank)
    refine ⟨[⟨.self, none⟩] ++ path, ?_, path.select_self_cons⟩
    simpa using first.append form
  · exact absurd rfl noSlash
  · exact ⟨path, form.prepend blank, fun _ => rfl⟩

namespace Path

/-- Steps behind a path do not change what the path starts with, unless it is a period alone. -/
theorem Starts.append {start steps : Text} (starts : Starts start steps) (nonempty : steps ≠ [])
    (notSelf : start = [] → steps ≠ ['.']) (more : Text) :
    Starts start (steps ++ ['/'] ++ more) := by
  rcases starts with period | slash | ⟨rfl, noPeriod, noSlash⟩
  · exact .inl period
  · exact .inr (.inl slash)
  · refine .inr (.inr ⟨rfl, ?_, ?_⟩)
    · intro front
      cases steps with
      | nil => exact absurd rfl nonempty
      | cons c steps =>
        obtain ⟨rfl, further⟩ := List.cons_prefix_cons.mp front
        cases steps with
        | nil => exact absurd rfl (notSelf rfl)
        | cons d steps =>
          obtain ⟨rfl, _⟩ := List.cons_prefix_cons.mp further
          exact noPeriod ⟨steps, rfl⟩
    · intro front
      cases steps with
      | nil => exact absurd rfl nonempty
      | cons c steps =>
        obtain ⟨rfl, _⟩ := List.cons_prefix_cons.mp front
        exact noSlash ⟨steps, rfl⟩

theorem Written.exists_steps {path : Path} {text : Text} (written : path.Written text) :
    ∃ start steps, text = start ++ steps ∧ Starts start steps ∧ path.StepsForm steps := by
  obtain ⟨start, pieces, rfl, starts, nonempty, forms⟩ := written.steps
  exact ⟨start, _, rfl, starts, pieces, nonempty, rfl, forms⟩

theorem written_of_stepsForm {path : Path} {start steps : Text}
    (trimmed : Text.Trimmed (start ++ steps)) (starts : Starts start steps)
    (form : path.StepsForm steps) : path.Written (start ++ steps) := by
  obtain ⟨pieces, nonempty, rfl, forms⟩ := form
  exact ⟨trimmed, start, pieces, rfl, starts, nonempty, forms⟩

theorem Written.ne_nil {path : Path} {text : Text} (written : path.Written text) : text ≠ [] := by
  obtain ⟨start, steps, rfl, _, form⟩ := written.exists_steps
  simp [form.ne_nil]

theorem Form.unique {p q : Path} {text : Text} (first : p.Form text) (second : q.Form text) :
    p = q := by
  have read := (Path.read_eq_ok_iff 0 p first.bar_not_mem).mpr first
  have same := (Path.read_eq_ok_iff 0 q first.bar_not_mem).mpr second
  rw [read] at same
  exact Except.ok.inj same

theorem Written.eq_self {path : Path} (written : path.Written ['.']) : path = [⟨.self, none⟩] := by
  have form {path : Path} (written : path.Written ['.']) : path.Form ['.'] :=
    ⟨[], ['.'], [], rfl, Text.allBlank_nil, Text.allBlank_nil, written⟩
  have self : Written [⟨.self, none⟩] ([] ++ ['.']) :=
    written_of_stepsForm written.trimmed (.inr (.inr ⟨rfl, by decide, by decide⟩))
      (stepsForm_singleton Step.form_self)
  exact (form written).unique (form self)

theorem Written.append {p q whole : Path} {front between back : Text} (first : p.Written front)
    (trimmed : Text.Trimmed back) (nonempty : back ≠ []) (form : whole.StepsForm (between ++ back))
    (same : ∀ document, whole.select document = q.select document) :
    ∃ both : Path, both.Written (front ++ (['/'] ++ between) ++ back) ∧
      ∀ document, both.select document = (p.select document).flatMap q.select := by
  have trimmedWhole := first.trimmed.append trimmed first.ne_nil nonempty (['/'] ++ between)
  obtain ⟨start, steps, rfl, starts, stepsForm⟩ := first.exists_steps
  by_cases self : start = [] ∧ steps = ['.']
  · obtain ⟨rfl, rfl⟩ := self
    -- The period and the slash behind it now start the path, so its only step is gone.
    have shape : ([] ++ ['.'] : Text) ++ (['/'] ++ between) ++ back =
        ['.', '/'] ++ (between ++ back) := by simp
    rw [shape] at trimmedWhole ⊢
    refine ⟨whole, written_of_stepsForm trimmedWhole (.inl rfl) form, ?_⟩
    intro document
    rw [first.eq_self, select_self_cons, same]
    simp [select]
  · have shape : start ++ steps ++ (['/'] ++ between) ++ back =
        start ++ (steps ++ ['/'] ++ (between ++ back)) := by simp
    rw [shape] at trimmedWhole ⊢
    have starts := starts.append stepsForm.ne_nil (fun nothing period => self ⟨nothing, period⟩)
      (between ++ back)
    refine ⟨p ++ whole, written_of_stepsForm trimmedWhole starts (stepsForm.append form), ?_⟩
    intro document
    rw [select_append, funext same]

theorem Form.append {p q : Path} {front back : Text} (first : p.Form front) (second : q.Form back)
    (ends : ∀ c ∈ front.getLast?, Text.isBlank c = false)
    (starts : (Text.trimStart back).head? ≠ some '/') :
    ∃ both : Path, both.Form (front ++ ['/'] ++ back) ∧
      ∀ document, both.select document = (p.select document).flatMap q.select := by
  obtain ⟨before, core, rfl, blankBefore, written⟩ := first.of_visible_end ends
  obtain ⟨between, inner, after, rfl, blankBetween, blankAfter, innerWritten⟩ := second
  rw [innerWritten.trimmed.trimStart_append innerWritten.ne_nil blankBetween] at starts
  obtain ⟨start, steps, rfl, startsInner, stepsForm⟩ := innerWritten.exists_steps
  have noSlash : start ≠ ['/'] := by
    rintro rfl
    exact starts rfl
  obtain ⟨whole, form, same⟩ := exists_stepsForm blankBetween startsInner noSlash stepsForm
  obtain ⟨both, bothWritten, selects⟩ :=
    written.append innerWritten.trimmed innerWritten.ne_nil form same
  exact ⟨both, ⟨before, _, after, by simp, blankBefore, blankAfter, bothWritten⟩, selects⟩

/-! ## Positions -/

theorem Starts.trimmed_append {start steps core : Text} (starts : Starts start steps)
    (nonempty : start ≠ []) (trimmed : Text.Trimmed core) (visible : core ≠ []) (blanks : Text) :
    Text.Trimmed (start ++ blanks ++ core) := by
  have own : Text.Trimmed start := by
    apply Text.trimmed_of_visible
    rcases starts with rfl | rfl | ⟨nothing, _⟩
    · exact List.forall_mem_cons.mpr ⟨rfl, List.forall_mem_singleton.mpr rfl⟩
    · exact List.forall_mem_singleton.mpr rfl
    · exact absurd nothing nonempty
  exact own.append trimmed nonempty visible blanks

/-- A test behind a start of a path is a path of its own, wherever blanks stand. -/
theorem form_of_test {test : StepTest} {before start rest front : Text}
    (blank : Text.AllBlank before) (starts : Starts start rest)
    (spaced : Text.Spaced test.Form front) :
    Path.Form [⟨test, none⟩] (before ++ (start ++ front)) := by
  obtain ⟨inner, core, after, rfl, blankInner, blankAfter, form⟩ := spaced
  have alone : StepsForm [⟨test, none⟩] core :=
    stepsForm_singleton
      (.plain ⟨[], core, [], by simp, Text.allBlank_nil, Text.allBlank_nil, form⟩)
  by_cases nothing : start = []
  · subst nothing
    have noSlash := form.unseparated.noSlash
    have bare : Starts [] core :=
      .inr (.inr ⟨rfl, fun front => noSlash (front.subset (by simp)),
        fun front => noSlash (front.subset (by simp))⟩)
    have trimmed : Text.Trimmed ([] ++ core) := form.trimmed
    exact ⟨before ++ inner, core, after, by simp, blank.append blankInner, blankAfter,
      written_of_stepsForm trimmed bare alone⟩
  · have trimmed := starts.trimmed_append nothing form.trimmed form.ne_nil inner
    rw [List.append_assoc] at trimmed
    have started : Starts start (inner ++ core) := by
      rcases starts with period | slash | ⟨same, _⟩
      · exact .inl period
      · exact .inr (.inl slash)
      · exact absurd same nothing
    exact ⟨before, start ++ (inner ++ core), after, by simp, blank, blankAfter,
      written_of_stepsForm trimmed started (alone.prepend blankInner)⟩

/-- What stands in front of the bracket of a single step is a path of its own. -/
theorem Form.exists_unpositioned {test : StepTest} {position : Nat} {text : Text}
    (form : Path.Form [⟨test, some position⟩] text) :
    ∃ front inner blanks, text = front ++ ['['] ++ inner ++ [']'] ++ blanks ∧ '[' ∉ front ∧
      Text.Spaced (PositionForm position) inner ∧ Text.AllBlank blanks ∧
      Path.Form [⟨test, none⟩] front := by
  obtain ⟨before, _, after, rfl, blankBefore, blankAfter, written⟩ := form
  obtain ⟨start, steps, rfl, starts, stepsForm⟩ := written.exists_steps
  cases stepsForm.of_singleton with
  | @positioned _ _ front inner spaced positionForm =>
    have inBefore : '[' ∉ before := fun member => absurd (blankBefore '[' member) (by decide)
    have inStart : '[' ∉ start := by
      rcases starts with rfl | rfl | ⟨rfl, _⟩ <;> decide
    have inFront : '[' ∉ front := spaced.not_mem rfl fun _ form => form.bracket_not_mem
    refine ⟨before ++ (start ++ front), inner, after, by simp, ?_, positionForm, blankAfter,
      form_of_test blankBefore starts spaced⟩
    simp [inBefore, inStart, inFront]

end Path

theorem Step.select_positioned (test : StepTest) (position : Nat) (document : Document) :
    Step.select ⟨test, some position⟩ document =
      ((Step.select ⟨test, none⟩ document)[position - 1]?).toList := rfl

theorem Path.select_singleton (step : Step) (document : Document) :
    Path.select [step] document = step.select document := by
  simp [select]

theorem length_flatMap_le_length {α β : Type} {f : α → List β} (single : ∀ a, (f a).length ≤ 1)
    (items : List α) : (items.flatMap f).length ≤ items.length := by
  induction items with
  | nil => exact Nat.le_refl 0
  | cons item items ih =>
    have own := single item
    rw [List.flatMap_cons, List.length_append, List.length_cons]
    omega

/-! ## Expressions of one path -/

namespace PathExpression

theorem parse_eq_ok_iff_of_single {source : Text} (single : '|' ∉ source)
    (expression : PathExpression) :
    parse source = .ok expression ↔ ∃ path : Path, expression = ⟨[path]⟩ ∧ path.Form source := by
  rw [parse_eq_ok_iff_form]
  obtain ⟨paths⟩ := expression
  constructor
  · intro form
    obtain ⟨parts, nonempty, rfl, forms⟩ := form
    cases forms with
    | nil => exact absurd rfl nonempty
    | @cons path part paths parts form forms =>
      cases forms with
      | nil => exact ⟨path, rfl, by simpa using form⟩
      | cons =>
        rw [List.intercalate_cons_cons] at single
        simp at single
  · intro form
    obtain ⟨path, same, form⟩ := form
    cases same
    exact ⟨[source], List.cons_ne_nil _ _, by simp, .cons form .nil⟩

theorem select_mk_singleton (path : Path) (document : Document) :
    select ⟨[path]⟩ document = path.select document := by
  simp [select]

/-- Two paths with a slash between them are a path, which selects what the second one selects from
each element that the first one selects, in the order of those. Where the second is a single step
with a position, the position counts anew for each of those elements: it picks one of the elements
that the step selects without it, or none if there are not so many. -/
theorem select_composed (front back : Text) (first second : PathExpression)
    (readFirst : parse front = .ok first) (readSecond : parse back = .ok second)
    (singleFirst : '|' ∉ front) (singleSecond : '|' ∉ back)
    (ends : ∀ c ∈ front.getLast?, Text.isBlank c = false)
    (starts : (Text.trimStart back).head? ≠ some '/') :
    ∃ both, parse (front ++ ['/'] ++ back) = .ok both ∧
      (∀ document, both.select document = (first.select document).flatMap second.select) ∧
      ∀ test position, second = ⟨[[⟨test, some position⟩]]⟩ →
        ∃ step written blanks unpositioned,
          back = step ++ ['['] ++ written ++ [']'] ++ blanks ∧ '[' ∉ step ∧
          Text.Spaced (PositionForm position) written ∧ Text.AllBlank blanks ∧
          parse step = .ok unpositioned ∧
          (∀ node, second.select node = ((unpositioned.select node)[position - 1]?).toList) ∧
          ∀ document, (both.select document).length ≤ (first.select document).length := by
  obtain ⟨p, rfl, formFirst⟩ := (parse_eq_ok_iff_of_single singleFirst first).mp readFirst
  obtain ⟨q, rfl, formSecond⟩ := (parse_eq_ok_iff_of_single singleSecond second).mp readSecond
  obtain ⟨r, form, selects⟩ := formFirst.append formSecond ends starts
  have single : '|' ∉ front ++ ['/'] ++ back := by simp [singleFirst, singleSecond]
  have composed : ∀ document, select ⟨[r]⟩ document =
      (select ⟨[p]⟩ document).flatMap (select ⟨[q]⟩) := by
    intro document
    rw [select_mk_singleton, select_mk_singleton, selects, funext (select_mk_singleton q)]
  refine ⟨⟨[r]⟩, (parse_eq_ok_iff_of_single single _).mpr ⟨r, rfl, form⟩, composed, ?_⟩
  intro test position same
  cases same
  obtain ⟨step, written, blanks, parts, noBracket, positionForm, blank, formStep⟩ :=
    formSecond.exists_unpositioned
  have singleStep : '|' ∉ step := by
    intro bar
    apply singleSecond
    rw [parts]
    simp [bar]
  have picks : ∀ node, select ⟨[[⟨test, some position⟩]]⟩ node =
      ((select ⟨[[⟨test, none⟩]]⟩ node)[position - 1]?).toList := by
    intro node
    rw [select_mk_singleton, select_mk_singleton, Path.select_singleton, Path.select_singleton,
      Step.select_positioned]
  refine ⟨step, written, blanks, ⟨[[⟨test, none⟩]]⟩, parts, noBracket, positionForm, blank,
    (parse_eq_ok_iff_of_single singleStep _).mpr ⟨_, rfl, formStep⟩, picks, ?_⟩
  intro document
  rw [composed]
  apply length_flatMap_le_length
  intro node
  rw [picks, Option.length_toList]
  split <;> simp

/-- Blanks stand at the outer ends, and in front of a start that becomes a step. The first path
selects three elements; the second one of them has no second `B`. -/
theorem select_composed_spaced :
    let first : PathExpression := ⟨[[⟨.name ['A'], none⟩, ⟨.wildcard, none⟩]]⟩
    let second : PathExpression := ⟨[[⟨.name ['B'], some 2⟩]]⟩
    let twice (text other : Text) : Document :=
      .object [(['B'], .array [.string text, .string other])]
    let sample : Document :=
      .object [(['A'], .array [.object [(['C'], twice ['u'] ['v'])],
        .object [(['D'], .object [(['B'], .string ['w'])]), (['C'], twice ['x'] ['y'])]])]
    parse " A/*".toList = .ok first ∧ parse " ./B [2]\u3000".toList = .ok second ∧
      ∃ both, parse " A/*/ ./B [2]\u3000".toList = .ok both ∧
        both.select sample = [.string ['v'], .string ['y']] ∧ ∀ document,
          both.select document = (first.select document).flatMap second.select ∧
            (both.select document).length ≤ (first.select document).length := by
  intro first second twice sample
  have readFirst : parse " A/*".toList = .ok first := by decide +kernel
  have readSecond : parse " ./B [2]\u3000".toList = .ok second := by decide +kernel
  have visible : ∀ c ∈ " A/*".toList.getLast?, Text.isBlank c = false := by
    intro c last
    cases last
    rfl
  obtain ⟨both, read, composed, positioned⟩ := select_composed _ _ first second readFirst readSecond
    (by decide) (by decide) visible (by decide)
  obtain ⟨_, _, _, _, _, _, _, _, _, _, single⟩ := positioned (.name ['B']) 2 rfl
  exact ⟨readFirst, readSecond, both, read, composed sample,
    fun document => ⟨composed document, single document⟩⟩

end PathExpression

end QueryTemplate
