import QueryTemplate.Proofs.BlamedSteps
import QueryTemplate.Proofs.PathComposition

/-! Blanks inserted beside the punctuation of an expression. The place is followed down, into one of
the paths, into one of its steps, and there to an end of the test or of the position, where blanks
do not count. Nothing is trimmed behind the bracket of a step, so blanks are only accepted there if
they end the path. -/

set_option autoImplicit false

namespace QueryTemplate

/-! ## Places -/

/-- That the place between two texts is directly beside a mark, or at an end of the whole. -/
def Beside (marks : List Char) (front back : Text) : Prop :=
  (∀ c ∈ front.getLast?, c ∈ marks) ∨ ∀ c ∈ back.head?, c ∈ marks

namespace Beside

variable {marks : List Char} {front back : Text}

theorem of_append_left {before : Text} (beside : Beside marks (before ++ front) back) :
    Beside marks front back :=
  beside.imp_left fun behind c ends => behind c (List.mem_getLast?_append_of_mem_getLast? ends)

theorem of_append_right {after : Text} (beside : Beside marks front (back ++ after)) :
    Beside marks front back :=
  beside.imp_right fun ahead c starts => ahead c (List.mem_head?_append_of_mem_head? starts)

theorem without {mark : Char} (beside : Beside (mark :: marks) front back)
    (clear : mark ∉ front ++ back) : Beside marks front back := by
  rw [List.mem_append, not_or] at clear
  have other {c : Char} {text : Text} (absent : mark ∉ text) (inside : c ∈ text)
      (member : c ∈ mark :: marks) : c ∈ marks := by
    rcases List.mem_cons.mp member with rfl | member
    · exact absurd inside absent
    · exact member
  rcases beside with behind | ahead
  · exact .inl fun c ends => other clear.1 (List.mem_of_getLast? ends) (behind c ends)
  · exact .inr fun c starts => other clear.2 (List.mem_of_head? starts) (ahead c starts)

theorem at_end (beside : Beside [] front back) : front = [] ∨ back = [] := by
  rcases beside with behind | ahead
  · exact .inl (List.getLast?_eq_none_iff.mp (Option.eq_none_iff_forall_not_mem.mpr
      fun c ends => List.not_mem_nil (behind c ends)))
  · exact .inr (List.head?_eq_none_iff.mp (Option.eq_none_iff_forall_not_mem.mpr
      fun c starts => List.not_mem_nil (ahead c starts)))

end Beside

namespace Text

theorem AllBlank.not_prefix {blanks : Text} (blank : AllBlank blanks) (nonempty : blanks ≠ [])
    {c : Char} (visible : isBlank c = false) (more : Text) : ¬ [c] <+: blanks ++ more := by
  cases blanks with
  | nil => exact absurd rfl nonempty
  | cons d blanks =>
    intro starts
    obtain ⟨rfl, _⟩ := List.cons_prefix_cons.mp starts
    exact blank.not_mem visible List.mem_cons_self

theorem place_of_append_eq {front back left right : Text} {mark : Char}
    (whole : front ++ back = left ++ [mark] ++ right) :
    (∃ rest, left = front ++ rest ∧ back = rest ++ [mark] ++ right) ∨
      ∃ rest, front = left ++ [mark] ++ rest ∧ right = rest ++ back := by
  rw [List.append_assoc] at whole
  rcases List.append_eq_append_iff.mp whole with ⟨rest, rfl, rfl⟩ | ⟨rest, rfl, behind⟩
  · exact .inl ⟨rest, rfl, by simp⟩
  · cases rest with
    | nil => exact .inl ⟨[], by simp, by simpa using behind.symm⟩
    | cons c rest =>
      obtain ⟨rfl, rfl⟩ := List.cons.inj behind
      exact .inr ⟨rest, by simp, rfl⟩

namespace Spaced

variable {Form : Text → Prop} {front back blanks : Text}

theorem append_blanks (spaced : Spaced Form front) (blank : AllBlank blanks) :
    Spaced Form (front ++ blanks) := by
  obtain ⟨before, core, after, rfl, blankBefore, blankAfter, form⟩ := spaced
  exact ⟨before, core, after ++ blanks, by simp, blankBefore, blankAfter.append blank, form⟩

/-- A place in a spaced form is among the blanks around it, or within it. -/
theorem place_cases (spaced : Spaced Form (front ++ back)) :
    (AllBlank front ∧ Spaced Form back) ∨ (Spaced Form front ∧ AllBlank back) ∨
      ∃ before last first after, front = before ++ last ∧ back = first ++ after ∧
        AllBlank before ∧ AllBlank after ∧ last ≠ [] ∧ first ≠ [] ∧ Form (last ++ first) := by
  obtain ⟨before, core, after, whole, blankBefore, blankAfter, form⟩ := spaced
  rw [List.append_assoc] at whole
  rcases List.append_eq_append_iff.mp whole with ⟨rest, rfl, rfl⟩ | ⟨last, rfl, inner⟩
  · obtain ⟨blankFront, blankRest⟩ := List.forall_mem_append.mp blankBefore
    exact .inl ⟨blankFront, rest, core, after, by simp, blankRest, blankAfter, form⟩
  · rcases List.append_eq_append_iff.mp inner with ⟨rest, rfl, rfl⟩ | ⟨first, rfl, rfl⟩
    · obtain ⟨blankRest, blankBack⟩ := List.forall_mem_append.mp blankAfter
      exact .inr (.inl ⟨⟨before, core, rest, by simp, blankBefore, blankRest, form⟩, blankBack⟩)
    · by_cases starts : last = []
      · subst starts
        rw [List.append_nil]
        exact .inl ⟨blankBefore, [], first, after, rfl, allBlank_nil, blankAfter, form⟩
      · by_cases ends : first = []
        · subst ends
          rw [List.append_nil] at form
          exact .inr (.inl
            ⟨⟨before, last, [], by simp, blankBefore, allBlank_nil, form⟩, blankAfter⟩)
        · exact .inr (.inr
            ⟨before, last, first, after, rfl, rfl, blankBefore, blankAfter, starts, ends, form⟩)

end Spaced

end Text

/-! ## Steps -/

theorem StepTest.Form.brackets_not_mem {test : StepTest} {written : Text}
    (form : test.Form written) : '[' ∉ written ∧ ']' ∉ written := by
  refine ⟨form.bracket_not_mem, ?_⟩
  cases form with
  | self => decide
  | wildcard => decide
  | name valid => exact fun member => (valid.plain ']' member).2 (by decide)

theorem PositionForm.brackets_not_mem {position : Nat} {text : Text}
    (form : PositionForm position text) : '[' ∉ text ∧ ']' ∉ text := by
  have other {c : Char} (notDigit : c.isDigit = false) (notPlus : c ≠ '+') : c ∉ text := by
    intro member
    rcases form.digit_or_plus c member with digit | plus
    · rw [notDigit] at digit
      cases digit
    · exact notPlus plus
  exact ⟨other rfl (by decide), other rfl (by decide)⟩

/-- A form without brackets has no place beside a bracket but its two ends, where blanks do not
count. -/
theorem Text.Spaced.insert {Form : Text → Prop} {front back blanks : Text}
    (spaced : Text.Spaced Form (front ++ back))
    (clear : ∀ core, Form core → '[' ∉ core ∧ ']' ∉ core)
    (beside : Beside ['[', ']'] front back) (blank : Text.AllBlank blanks) :
    Text.Spaced Form (front ++ blanks ++ back) := by
  have noOpening := spaced.not_mem rfl fun core form => (clear core form).1
  have noClosing := spaced.not_mem rfl fun core form => (clear core form).2
  rcases ((beside.without noOpening).without noClosing).at_end with rfl | rfl
  · exact spaced.prepend blank
  · rw [List.append_nil] at spaced ⊢
    exact spaced.append_blanks blank

namespace Step.Form

variable {step : Step} {front back blanks : Text}

/-- Blanks do not count beside a bracket and at the ends of a step, but for the end behind the
closing bracket. -/
theorem insert (form : step.Form (front ++ back)) (beside : Beside ['[', ']'] front back)
    (blank : Text.AllBlank blanks) :
    step.Form (front ++ blanks ++ back) ∨ front.getLast? = some ']' ∧ back = [] := by
  generalize whole : front ++ back = piece at form
  cases form with
  | plain spaced =>
    subst whole
    exact .inl (.plain (spaced.insert (fun _ form => form.brackets_not_mem) beside blank))
  | @positioned test position written inner spaced spacedPosition =>
    rcases Text.place_of_append_eq whole with ⟨rest, rfl, rfl⟩ | ⟨rest, rfl, behind⟩
    · have inTest : Beside ['[', ']'] front rest := by
        rw [List.append_assoc] at beside
        exact beside.of_append_right
      have inserted := spaced.insert (fun _ form => form.brackets_not_mem) inTest blank
      left
      simpa using positioned inserted spacedPosition
    · rw [← List.append_nil (inner ++ [']'])] at behind
      rcases Text.place_of_append_eq behind.symm with ⟨further, rfl, rfl⟩ | ⟨further, rfl, nothing⟩
      · have inPosition : Beside ['[', ']'] rest further :=
          beside.of_append_left.of_append_right.of_append_right
        have inserted :=
          spacedPosition.insert (fun _ form => form.brackets_not_mem) inPosition blank
        left
        simpa using positioned spaced inserted
      · obtain ⟨rfl, rfl⟩ := List.append_eq_nil_iff.mp nothing.symm
        exact .inr ⟨by rw [List.append_nil, ← List.append_assoc, List.getLast?_concat], rfl⟩

theorem exists_brackets (form : step.Form front) (ends : front.getLast? = some ']') :
    ∃ test inner, front = test ++ ['['] ++ (inner ++ [']']) ∧ '[' ∉ test ∧ '[' ∉ inner := by
  cases form with
  | plain spaced =>
    have noClosing := spaced.not_mem rfl fun _ form => form.brackets_not_mem.2
    exact absurd (List.mem_of_getLast? ends) noClosing
  | positioned spaced spacedPosition =>
    exact ⟨_, _, rfl, spaced.not_mem rfl fun _ form => form.bracket_not_mem,
      spacedPosition.not_mem rfl fun _ form => form.brackets_not_mem.1⟩

end Step.Form

/-! ## Sequences -/

/-- A text is divided into parts that have a form in one way at most. -/
theorem exists_parts_iff_fields {α : Type} {Form : α → Text → Prop} {separator : Char}
    (clear : ∀ value part, Form value part → separator ∉ part) {values : List α} {text : Text} :
    (∃ parts, parts ≠ [] ∧ text = [separator].intercalate parts ∧ List.Forall₂ Form values parts) ↔
      List.Forall₂ Form values (Text.fields separator text) := by
  constructor
  · rintro ⟨parts, nonempty, whole, forms⟩
    rwa [Text.fields_eq_iff.mpr ⟨nonempty, forall_mem_of_forall₂ forms clear, whole⟩]
  · intro forms
    exact ⟨_, Text.fields_ne_nil separator text, (Text.join_fields separator text).symm, forms⟩

theorem Path.stepsForm_iff_fields {path : Path} {text : Text} :
    path.StepsForm text ↔ List.Forall₂ Step.Form path (Text.fields '/' text) :=
  exists_parts_iff_fields fun _ _ form => form.unseparated.noSlash

theorem PathExpression.form_iff_fields {expression : PathExpression} {text : Text} :
    expression.Form text ↔ List.Forall₂ Path.Form expression.paths (Text.fields '|' text) :=
  exists_parts_iff_fields fun _ _ form => form.bar_not_mem

theorem exists_of_forall₂_append_cons {α : Type} {Form : α → Text → Prop} {values : List α}
    {before after : List Text} {text : Text}
    (forms : List.Forall₂ Form values (before ++ text :: after)) :
    ∃ front value back, values = front ++ value :: back ∧ List.Forall₂ Form front before ∧
      Form value text ∧ List.Forall₂ Form back after := by
  induction before generalizing values with
  | nil =>
    cases forms with
    | cons own others => exact ⟨[], _, _, rfl, .nil, own, others⟩
  | cons first before ih =>
    cases forms with
    | cons own others =>
      obtain ⟨front, value, back, rfl, formsBefore, form, formsAfter⟩ := ih others
      exact ⟨_ :: front, value, back, rfl, .cons own formsBefore, form, formsAfter⟩

/-- A place in a text of several fields: the fields in front of it, the two parts of the field that
it divides, and the fields behind it. -/
structure Text.Place where
  before : List Text
  last : Text
  first : Text
  after : List Text

namespace Text.Place

def front (separator : Char) (place : Place) : Text :=
  (place.before.flatMap fun other => other ++ [separator]) ++ place.last

def back (separator : Char) (place : Place) : Text :=
  place.first ++ place.after.flatMap fun other => [separator] ++ other

/-- The fields of the text if something is inserted at the place. -/
def fields (place : Place) (middle : Text) : List Text :=
  place.before ++ (place.last ++ middle ++ place.first) :: place.after

theorem exists_of_texts (separator : Char) (front back : Text) :
    ∃ place : Place, front = place.front separator ∧ back = place.back separator ∧
      ∀ middle, separator ∉ middle →
        Text.fields separator (front ++ middle ++ back) = place.fields middle := by
  obtain ⟨before, last, divided⟩ :=
    (List.eq_nil_or_concat' (Text.fields separator front)).resolve_left
      (Text.fields_ne_nil separator front)
  obtain ⟨first, after, dividedBack⟩ :=
    List.exists_cons_of_ne_nil (Text.fields_ne_nil separator back)
  obtain ⟨_, clear, whole⟩ := Text.fields_eq_iff.mp divided
  obtain ⟨_, clearBack, wholeBack⟩ := Text.fields_eq_iff.mp dividedBack
  have front_eq : front = Place.front separator ⟨before, last, first, after⟩ := by
    simpa [Place.front] using whole.trans (Text.intercalate_append_cons [separator] before last [])
  have back_eq : back = Place.back separator ⟨before, last, first, after⟩ := by
    simpa [Place.back] using
      wholeBack.trans (Text.intercalate_append_cons [separator] [] first after)
  refine ⟨⟨before, last, first, after⟩, front_eq, back_eq, ?_⟩
  intro middle absent
  obtain ⟨clearBefore, clearLast⟩ := List.forall_mem_append.mp clear
  obtain ⟨clearFirst, clearAfter⟩ := List.forall_mem_cons.mp clearBack
  have clearDivided : separator ∉ last ++ middle ++ first := by
    simp [List.forall_mem_singleton.mp clearLast, absent, clearFirst]
  rw [Text.fields_eq_iff, fields]
  refine ⟨by simp, ?_, ?_⟩
  · exact List.forall_mem_append.mpr
      ⟨clearBefore, List.forall_mem_cons.mpr ⟨clearDivided, clearAfter⟩⟩
  · rw [Text.intercalate_append_cons, front_eq, back_eq]
    simp [Place.front, Place.back]

variable {separator : Char} {place : Place} {c : Char}

theorem eq_separator_of_front (nothing : place.last = [])
    (ends : c ∈ (place.front separator).getLast?) : c = separator := by
  rw [front, nothing, List.append_nil] at ends
  rcases List.eq_nil_or_concat' place.before with none | ⟨others, other, parts⟩
  · simp [none] at ends
  · simpa [parts, eq_comm] using ends

theorem eq_separator_of_back (nothing : place.first = [])
    (starts : c ∈ (place.back separator).head?) : c = separator := by
  rw [back, nothing, List.nil_append] at starts
  cases parts : place.after with
  | nil => simp [parts] at starts
  | cons other others => simpa [parts, eq_comm] using starts

theorem getLast?_last (ends : (place.front separator).getLast? = some c) (other : c ≠ separator) :
    place.last.getLast? = some c := by
  have visible : place.last ≠ [] := fun nothing => other (eq_separator_of_front nothing ends)
  rwa [front, List.getLast?_append_of_ne_nil _ visible] at ends

theorem head?_first (starts : (place.back separator).head? = some c) (other : c ≠ separator) :
    place.first.head? = some c := by
  have visible : place.first ≠ [] := fun nothing => other (eq_separator_of_back nothing starts)
  rwa [back, List.head?_append_of_ne_nil _ visible] at starts

theorem beside_of_texts {marks : List Char} (clear : separator ∉ place.last ++ place.first)
    (beside : Beside (separator :: marks) (place.front separator) (place.back separator)) :
    Beside marks place.last place.first :=
  beside.of_append_left.of_append_right.without clear

/-- A place in a text of values lies in the field of one of them. Whatever is inserted there, the
other values stay. -/
theorem exists_of_forms {α : Type} {Form : α → Text → Prop} {values : List α} {front back : Text}
    (forms : List.Forall₂ Form values (Text.fields separator (front ++ back))) :
    ∃ (place : Place) (before : List α) (value : α) (after : List α),
      front = place.front separator ∧ back = place.back separator ∧
      values = before ++ value :: after ∧ List.Forall₂ Form before place.before ∧
      Form value (place.last ++ place.first) ∧
      ∀ middle, separator ∉ middle →
        Text.fields separator (front ++ middle ++ back) = place.fields middle ∧
          ∀ widened, Form widened (place.last ++ middle ++ place.first) →
            List.Forall₂ Form (before ++ widened :: after) (place.fields middle) := by
  obtain ⟨place, front_eq, back_eq, divided⟩ := exists_of_texts separator front back
  have own := divided [] List.not_mem_nil
  rw [fields, List.append_nil, List.append_nil] at own
  rw [own] at forms
  obtain ⟨before, value, after, rfl, formsBefore, form, formsAfter⟩ :=
    exists_of_forall₂_append_cons forms
  exact ⟨place, before, value, after, front_eq, back_eq, rfl, formsBefore, form,
    fun middle absent => ⟨divided middle absent,
      fun _ form => List.rel_append formsBefore (.cons form formsAfter)⟩⟩

end Text.Place

/-! ## Paths -/

theorem Text.Trimmed.insert {front back : Text} (trimmed : Text.Trimmed (front ++ back))
    (inFront : front ≠ []) (inBack : back ≠ []) (middle : Text) :
    Text.Trimmed (front ++ middle ++ back) :=
  Text.trimmed_of_ends inFront inBack
    (fun c starts => trimmed.first c (List.mem_head?_append_of_mem_head? starts))
    (fun c ends => trimmed.last c (List.mem_getLast?_append_of_mem_getLast? ends)) middle

namespace Path

variable {path : Path} {front back blanks : Text}

theorem Starts.insert {start : Text} (starts : Starts start (front ++ back))
    (blank : Text.AllBlank blanks) (inFront : start = [] → front ≠ []) :
    Starts start (front ++ blanks ++ back) := by
  rcases starts with period | slash | ⟨rfl, noPeriod, noSlash⟩
  · exact .inl period
  · exact .inr (.inl slash)
  · cases front with
    | nil => exact absurd rfl (inFront rfl)
    | cons c front =>
      refine .inr (.inr ⟨rfl, ?_, ?_⟩)
      · intro starts
        obtain ⟨rfl, further⟩ := List.cons_prefix_cons.mp starts
        -- The second character stays as it is, or a blank takes its place.
        have second : ['/'] <+: front ++ back := by
          cases front with
          | nil =>
            by_cases nothing : blanks = []
            · simpa [nothing] using further
            · exact absurd further (blank.not_prefix nothing rfl back)
          | cons d front =>
            obtain ⟨rfl, _⟩ := List.cons_prefix_cons.mp further
            exact ⟨front ++ back, rfl⟩
        exact noPeriod (List.cons_prefix_cons.mpr ⟨rfl, second⟩)
      · intro starts
        obtain ⟨rfl, _⟩ := List.cons_prefix_cons.mp starts
        exact noSlash ⟨front ++ back, rfl⟩

theorem StepsForm.insert (form : path.StepsForm (front ++ back))
    (beside : Beside ['/', '[', ']'] front back) (blank : Text.AllBlank blanks) :
    path.StepsForm (front ++ blanks ++ back) ∨
      front.getLast? = some ']' ∧ ∀ c ∈ back.head?, c = '/' := by
  obtain ⟨place, _, step, _, front_eq, back_eq, rfl, _, own, inserted⟩ :=
    Text.Place.exists_of_forms (stepsForm_iff_fields.mp form)
  obtain ⟨divided, others⟩ := inserted blanks (blank.not_mem rfl)
  rw [front_eq, back_eq] at beside
  rcases own.insert (place.beside_of_texts own.unseparated.noSlash beside) blank with
    widened | ⟨ends, nothing⟩
  · rw [stepsForm_iff_fields, divided]
    exact .inl (others step widened)
  · rw [front_eq, back_eq]
    exact .inr ⟨List.mem_getLast?_append_of_mem_getLast? ends,
      fun _ => Text.Place.eq_separator_of_back nothing⟩

/-- A place in a path is behind its start, or between the period and the slash of the start. -/
theorem Starts.place_cases {start steps : Text} (starts : Starts start steps)
    (whole : front ++ back = start ++ steps) (inFront : front ≠ []) :
    (∃ earlier, front = start ++ earlier ∧ steps = earlier ++ back) ∨
      front = ['.'] ∧ back = ['/'] ++ steps := by
  rcases List.append_eq_append_iff.mp whole with ⟨later, rfl, rfl⟩ | ⟨earlier, rfl, rfl⟩
  · cases later with
    | nil => exact .inl ⟨[], by simp, rfl⟩
    | cons c later =>
      cases front with
      | nil => exact absurd rfl inFront
      | cons d front =>
        rcases starts with period | slash | ⟨nothing, _⟩
        · obtain ⟨rfl, further⟩ := List.cons.inj period
          rcases List.append_eq_singleton_iff.mp further with ⟨rfl, same⟩ | ⟨_, same⟩
          · exact .inr ⟨rfl, by rw [same]⟩
          · cases same
        · obtain ⟨_, further⟩ := List.cons.inj slash
          cases (List.append_eq_nil_iff.mp further).2
        · cases nothing
  · exact .inl ⟨earlier, rfl, rfl⟩

/-- Blanks between the period and the slash of a start leave the period as a step of its own. -/
theorem written_of_parted_start {steps : Text} (form : path.StepsForm steps)
    (trimmed : Text.Trimmed (['.'] ++ blanks ++ (['/'] ++ steps))) (blank : Text.AllBlank blanks)
    (nonempty : blanks ≠ []) :
    Written ([⟨.self, none⟩] ++ path) (['.'] ++ blanks ++ (['/'] ++ steps)) := by
  have self : Step.Form ⟨.self, none⟩ (['.'] ++ blanks) :=
    .plain ⟨[], ['.'], blanks, rfl, Text.allBlank_nil, blank, .self⟩
  have whole := (stepsForm_singleton self).append form
  rw [List.append_assoc _ ['/']] at whole
  have starts : Starts [] (['.'] ++ blanks ++ (['/'] ++ steps)) := by
    refine .inr (.inr ⟨rfl, ?_, ?_⟩)
    · intro period
      exact blank.not_prefix nonempty rfl _ (List.cons_prefix_cons.mp period).2
    · intro slash
      cases (List.cons_prefix_cons.mp slash).1
  exact @written_of_stepsForm _ [] _ trimmed starts whole

theorem Written.insert (written : path.Written (front ++ back))
    (beside : Beside ['/', '[', ']'] front back) (blank : Text.AllBlank blanks)
    (inFront : front ≠ []) (inBack : back ≠ []) :
    (∃ widened : Path, widened.Written (front ++ blanks ++ back) ∧
      ∀ document, widened.select document = path.select document) ∨
    front.getLast? = some ']' ∧ back.head? = some '/' := by
  by_cases nothing : blanks = []
  · subst nothing
    rw [List.append_nil]
    exact .inl ⟨path, written, fun _ => rfl⟩
  · have trimmed := written.trimmed.insert inFront inBack blanks
    obtain ⟨start, steps, whole, starts, form⟩ := written.exists_steps
    rcases starts.place_cases whole inFront with ⟨earlier, rfl, rfl⟩ | ⟨rfl, rfl⟩
    · rcases form.insert beside.of_append_left blank with form | ⟨ends, separated⟩
      · have behind : start = [] → earlier ≠ [] := by
          rintro rfl
          exact inFront
        have starts := starts.insert blank behind
        have shape : start ++ earlier ++ blanks ++ back = start ++ (earlier ++ blanks ++ back) := by
          simp
        rw [shape] at trimmed ⊢
        exact .inl ⟨path, written_of_stepsForm trimmed starts form, fun _ => rfl⟩
      · refine .inr ⟨List.mem_getLast?_append_of_mem_getLast? ends, ?_⟩
        obtain ⟨c, back, rfl⟩ := List.exists_cons_of_ne_nil inBack
        exact congrArg some (separated c rfl)
    · exact .inl ⟨_, written_of_parted_start form trimmed blank nothing, path.select_self_cons⟩

theorem Form.insert (form : path.Form (front ++ back))
    (beside : Beside ['/', '[', ']'] front back) (blank : Text.AllBlank blanks) :
    (∃ widened : Path, widened.Form (front ++ blanks ++ back) ∧
      ∀ document, widened.select document = path.select document) ∨
    front.getLast? = some ']' ∧ back.head? = some '/' := by
  rcases form.place_cases with ⟨blankFront, form⟩ | ⟨form, blankBack⟩ |
    ⟨before, last, first, after, rfl, rfl, blankBefore, blankAfter, inFront, inBack, written⟩
  · exact .inl ⟨path, form.prepend (blankFront.append blank), fun _ => rfl⟩
  · rw [List.append_assoc]
    exact .inl ⟨path, form.append_blanks (blank.append blankBack), fun _ => rfl⟩
  · rcases written.insert beside.of_append_left.of_append_right blank inFront inBack with
      ⟨widened, written, same⟩ | ⟨ends, slash⟩
    · exact .inl ⟨widened, ⟨before, _, after, by simp, blankBefore, blankAfter, written⟩, same⟩
    · exact .inr ⟨List.mem_getLast?_append_of_mem_getLast? ends,
        List.mem_head?_append_of_mem_head? slash⟩

end Path

/-! ## Rejected blanks -/

/-- That a reader takes the bracket at the end of a text for missing if blanks stand behind it, and
blames the bracket that it closes. -/
def MissesBracket {α : Type} (read : Nat → Text → Except PathFault α) (front blanks back : Text) :
    Prop :=
  ∃ before inner, front = before ++ ['['] ++ (inner ++ [']']) ∧ '[' ∉ inner ∧
    ∀ offset, read offset (front ++ blanks ++ back) =
      .error ⟨offset + before.byteLength, .unterminatedPredicate⟩

theorem Step.Form.missesBracket {step : Step} {piece blanks : Text} (form : step.Form piece)
    (ends : piece.getLast? = some ']') (blank : Text.AllBlank blanks) (nonempty : blanks ≠ []) :
    MissesBracket Step.read piece blanks [] := by
  have unseparated : Unseparated (piece ++ blanks) :=
    form.unseparated.append ⟨blank.not_mem rfl, blank.not_mem rfl⟩
  obtain ⟨test, inner, rfl, noBracket, noInner⟩ := form.exists_brackets ends
  refine ⟨test, inner, rfl, noInner, fun offset => ?_⟩
  have shape : test ++ ['['] ++ (inner ++ [']']) ++ blanks ++ [] =
      test ++ ['['] ++ (inner ++ [']'] ++ blanks) := by simp
  have unclosed : (test ++ ['['] ++ (inner ++ [']'] ++ blanks)).getLast? ≠ some ']' := by
    rw [← List.append_assoc, List.getLast?_append_of_ne_nil _ nonempty]
    exact fun closes => blank.not_mem rfl (List.mem_of_getLast? closes)
  have flaw := Flaw.unterminated noBracket unclosed
  rw [shape]
  exact flaw.read_eq_error (by simpa using unseparated) offset

/-- The fault of one field is that of the whole text, if the fields in front of it are read. -/
theorem MissesBracket.of_field {α : Type} {read : Nat → Text → Except PathFault α}
    {separator : Char} (single : separator.utf8Size = 1) {place : Text.Place} {blanks : Text}
    (earlier : ∀ offset, ∃ values, readEach read offset place.before = .ok values)
    (missed : MissesBracket read place.last blanks place.first)
    (divided : Text.fields separator (place.front separator ++ blanks ++ place.back separator) =
      place.fields blanks) :
    MissesBracket (fun offset text => readEach read offset (Text.fields separator text))
      (place.front separator) blanks (place.back separator) := by
  obtain ⟨before, inner, parts, noBracket, failed⟩ := missed
  refine ⟨(place.before.flatMap fun other => other ++ [separator]) ++ before, inner, ?_, noBracket,
    fun offset => ?_⟩
  · rw [Text.Place.front, parts]
    simp
  · simp only [divided]
    refine readEach_eq_error_iff.mpr ⟨_, _, _, rfl, earlier offset, ?_⟩
    rw [failed, Text.byteLength_append, ← extent_eq_byteLength single, Nat.add_assoc]

namespace Path

variable {path : Path} {front back blanks : Text}

theorem StepsForm.missesBracket (form : path.StepsForm (front ++ back))
    (ends : front.getLast? = some ']') (slash : back.head? = some '/')
    (blank : Text.AllBlank blanks) (nonempty : blanks ≠ []) :
    MissesBracket (fun offset text => readEach Step.read offset (Text.fields '/' text))
      front blanks back := by
  obtain ⟨place, _, _, _, front_eq, back_eq, _, formsBefore, own, inserted⟩ :=
    Text.Place.exists_of_forms (stepsForm_iff_fields.mp form)
  obtain ⟨divided, _⟩ := inserted blanks (blank.not_mem rfl)
  have nothing : place.first = [] := by
    cases starts : place.first with
    | nil => rfl
    | cons c rest =>
      rw [back_eq, Text.Place.back, starts] at slash
      cases slash
      exact absurd (by simp [starts]) own.unseparated.noSlash
  rw [nothing, List.append_nil] at own
  have endsLast := Text.Place.getLast?_last (front_eq ▸ ends) (by decide)
  have missed := own.missesBracket endsLast blank nonempty
  rw [← nothing] at missed
  have earlier (offset : Nat) := (Step.exists_readEach_iff
    (forall_mem_of_forall₂ formsBefore fun _ _ form => form.unseparated) offset).mpr
      (forall_mem_of_forall₂ formsBefore fun step _ form => ⟨step, form⟩)
  rw [front_eq, back_eq] at divided ⊢
  exact missed.of_field rfl earlier divided

theorem Written.missesBracket (written : path.Written (front ++ back))
    (ends : front.getLast? = some ']') (slash : back.head? = some '/')
    (blank : Text.AllBlank blanks) (nonempty : blanks ≠ []) {before after : Text}
    (blankBefore : Text.AllBlank before) (blankAfter : Text.AllBlank after) :
    MissesBracket Path.read (before ++ front) blanks (back ++ after) := by
  have inFront : front ≠ [] := List.ne_nil_of_mem (List.mem_of_getLast? ends)
  have inBack : back ≠ [] := List.ne_nil_of_mem (List.mem_of_head? slash)
  have trimmed := written.trimmed.insert inFront inBack blanks
  obtain ⟨start, steps, whole, starts, form⟩ := written.exists_steps
  rcases starts.place_cases whole inFront with ⟨earlier, rfl, rfl⟩ | ⟨rfl, _⟩
  · have behind : earlier ≠ [] := by
      rintro rfl
      rw [List.append_nil] at ends
      rcases starts with rfl | rfl | ⟨rfl, _⟩ <;> cases ends
    rw [List.getLast?_append_of_ne_nil _ behind] at ends
    obtain ⟨test, inner, parts, noBracket, failed⟩ := form.missesBracket ends slash blank nonempty
    have starts := starts.insert blank fun _ => behind
    have shape : start ++ earlier ++ blanks ++ back = start ++ (earlier ++ blanks ++ back) := by
      simp
    rw [shape] at trimmed
    refine ⟨before ++ start ++ test, inner, by rw [parts]; simp, noBracket, fun offset => ?_⟩
    have moved : before ++ (start ++ earlier) ++ blanks ++ (back ++ after) =
        before ++ (start ++ (earlier ++ blanks ++ back)) ++ after := by simp
    rw [moved, read_eq_readEach blankBefore blankAfter trimmed (by simp [behind]) starts,
      Text.byteLength_append _ test, ← Nat.add_assoc]
    exact failed _
  · cases ends

theorem Form.missesBracket (form : path.Form (front ++ back)) (ends : front.getLast? = some ']')
    (slash : back.head? = some '/') (blank : Text.AllBlank blanks) (nonempty : blanks ≠ []) :
    MissesBracket Path.read front blanks back := by
  rcases form.place_cases with ⟨blankFront, _⟩ | ⟨_, blankBack⟩ |
    ⟨before, last, first, after, rfl, rfl, blankBefore, blankAfter, inFront, inBack, written⟩
  · exact absurd (List.mem_of_getLast? ends) (blankFront.not_mem rfl)
  · exact absurd (List.mem_of_head? slash) (blankBack.not_mem rfl)
  · rw [List.getLast?_append_of_ne_nil _ inFront] at ends
    rw [List.head?_append_of_ne_nil _ inBack] at slash
    exact written.missesBracket ends slash blank nonempty blankBefore blankAfter

end Path

namespace PathExpression

variable {front back blanks : Text} {expression : PathExpression}

theorem exists_parse_insert (accepted : parse (front ++ back) = .ok expression)
    (beside : Beside ['|', '/', '[', ']'] front back) (blank : Text.AllBlank blanks) :
    (∃ widened, parse (front ++ blanks ++ back) = .ok widened ∧
      ∀ document, widened.select document = expression.select document) ∨
    front.getLast? = some ']' ∧ back.head? = some '/' := by
  have forms := form_iff_fields.mp ((parse_eq_ok_iff_form _ expression).mp accepted)
  obtain ⟨place, before, path, after, front_eq, back_eq, paths, _, own, inserted⟩ :=
    Text.Place.exists_of_forms forms
  obtain ⟨divided, others⟩ := inserted blanks (blank.not_mem rfl)
  obtain ⟨_⟩ := expression
  cases paths
  rw [front_eq, back_eq] at beside
  rcases own.insert (place.beside_of_texts own.bar_not_mem beside) blank with
    ⟨widened, form, same⟩ | ⟨ends, slash⟩
  · refine .inl ⟨⟨before ++ widened :: after⟩, ?_, fun document => ?_⟩
    · rw [parse_eq_ok_iff_form, form_iff_fields, divided]
      exact others widened form
    · simp [select, same]
  · rw [front_eq, back_eq]
    exact .inr ⟨List.mem_getLast?_append_of_mem_getLast? ends,
      List.mem_head?_append_of_mem_head? slash⟩

theorem missesBracket (accepted : parse (front ++ back) = .ok expression)
    (ends : front.getLast? = some ']') (slash : back.head? = some '/')
    (blank : Text.AllBlank blanks) (nonempty : blanks ≠ []) :
    MissesBracket (fun offset text => readEach Path.read offset (Text.fields '|' text))
      front blanks back := by
  have forms := form_iff_fields.mp ((parse_eq_ok_iff_form _ expression).mp accepted)
  obtain ⟨place, before, _, _, front_eq, back_eq, _, formsBefore, own, inserted⟩ :=
    Text.Place.exists_of_forms forms
  obtain ⟨divided, _⟩ := inserted blanks (blank.not_mem rfl)
  have endsLast := Text.Place.getLast?_last (front_eq ▸ ends) (by decide)
  have startsFirst := Text.Place.head?_first (back_eq ▸ slash) (by decide)
  have missed := own.missesBracket endsLast startsFirst blank nonempty
  have earlier (offset : Nat) : ∃ values, readEach Path.read offset place.before = .ok values := by
    have readable := forall_mem_of_forall₂ formsBefore fun _ _ form => form.bar_not_mem
    refine ⟨before, (readEach_eq_ok_iff ?_ offset before).mpr formsBefore⟩
    exact fun part member offset path => Path.read_eq_ok_iff offset path (readable part member)
  rw [front_eq, back_eq] at divided ⊢
  exact missed.of_field rfl earlier divided

/-- Blanks beside the punctuation of an expression, and at its ends, do not change what it selects,
but for one place. Between the bracket that ends a step and a slash, any blank makes the expression
malformed, and the bracket that opens the position is blamed for not being closed. -/
theorem parse_inserted_blanks (front back blanks : Text) (expression : PathExpression)
    (accepted : parse (front ++ back) = .ok expression)
    (beside : Beside ['|', '/', '[', ']'] front back) (blank : Text.AllBlank blanks) :
    (¬ (front.getLast? = some ']' ∧ back.head? = some '/') →
      ∃ widened, parse (front ++ blanks ++ back) = .ok widened ∧
        ∀ document, widened.select document = expression.select document) ∧
    (front.getLast? = some ']' → back.head? = some '/' → blanks ≠ [] →
      ∃ before inner, front = before ++ ['['] ++ (inner ++ [']']) ∧ '[' ∉ inner ∧
        parse (front ++ blanks ++ back) =
          .error ⟨front ++ blanks ++ back, before.byteLength, .unterminatedPredicate⟩) := by
  constructor
  · exact (exists_parse_insert accepted beside blank).resolve_right
  · intro ends slash nonempty
    obtain ⟨before, inner, parts, noBracket, failed⟩ :=
      missesBracket accepted ends slash blank nonempty
    refine ⟨before, inner, parts, noBracket, ?_⟩
    have failed := failed 0
    rw [Nat.zero_add] at failed
    rw [parse]
    simp only [failed]

/-- An ideographic space in front of a bracket, and behind one. -/
theorem parse_inserted_blanks_brackets :
    let expression : PathExpression := ⟨[[⟨.name ['é'], some 1⟩, ⟨.name ['B'], none⟩]]⟩
    (∃ widened, parse "é\u3000[1]/B".toList = .ok widened ∧
      ∀ document, widened.select document = expression.select document) ∧
    ∃ before inner : Text, "é[1]".toList = before ++ ['['] ++ (inner ++ [']']) ∧ '[' ∉ inner ∧
      parse "é[1]\u3000/B".toList =
        .error ⟨"é[1]\u3000/B".toList, before.byteLength, .unterminatedPredicate⟩ := by
  intro expression
  have accepted : parse "é[1]/B".toList = .ok expression := by decide +kernel
  have blank : Text.AllBlank ['\u3000'] := List.forall_mem_singleton.mpr rfl
  have besideOpening : Beside ['|', '/', '[', ']'] ['é'] "[1]/B".toList := by
    right
    rintro c ⟨rfl⟩
    decide
  have besideClosing : Beside ['|', '/', '[', ']'] "é[1]".toList "/B".toList := by
    right
    rintro c ⟨rfl⟩
    decide
  obtain ⟨same, _⟩ := parse_inserted_blanks _ _ _ _ accepted besideOpening blank
  obtain ⟨_, rejected⟩ := parse_inserted_blanks _ _ _ _ accepted besideClosing blank
  exact ⟨same (by decide), rejected rfl rfl (by decide)⟩

/-- Blanks in front of a slash are accepted behind a name, and blanks behind a bracket are accepted
in front of a bar, but not in front of a slash. -/
theorem parse_ne_ok_behind_bracket :
    (∃ expression, parse ("A[1]".toList ++ "/B".toList) = .ok expression) ∧
      Beside ['|', '/', '[', ']'] "A[1]".toList "/B".toList ∧ Text.AllBlank [' '] ∧
      (∃ expression, parse "A /B".toList = .ok expression) ∧
      (∃ expression, parse "A[1] |B".toList = .ok expression) ∧
      ¬ ∃ widened, parse ("A[1]".toList ++ [' '] ++ "/B".toList) = .ok widened := by
  have rejected : parse "A[1] /B".toList =
      .error ⟨"A[1] /B".toList, 1, .unterminatedPredicate⟩ := by decide +kernel
  have beside : Beside ['|', '/', '[', ']'] "A[1]".toList "/B".toList := by
    right
    rintro c ⟨rfl⟩
    decide
  refine ⟨⟨⟨[[⟨.name ['A'], some 1⟩, ⟨.name ['B'], none⟩]]⟩, by decide +kernel⟩, beside,
    List.forall_mem_singleton.mpr rfl,
    ⟨⟨[[⟨.name ['A'], none⟩, ⟨.name ['B'], none⟩]]⟩, by decide +kernel⟩,
    ⟨⟨[[⟨.name ['A'], some 1⟩], [⟨.name ['B'], none⟩]]⟩, by decide +kernel⟩, ?_⟩
  rintro ⟨widened, accepted⟩
  have accepted : parse "A[1] /B".toList = .ok widened := accepted
  rw [rejected] at accepted
  cases accepted

end PathExpression

end QueryTemplate
