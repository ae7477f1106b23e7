import QueryTemplate.Proofs.Blame
import QueryTemplate.Proofs.RenderingParts

/-! What a rendering asks for. Its tags are numbered in the order of the source, and each is asked
for at most once, so that a rendering gets one answer for a number. Which tags are executed depends
on these answers alone, whatever state the resolver keeps: a body counts if the one answer to the
tag that opens it lets it be entered. The executed tags are asked for in their order, up to the
first that fails. -/

set_option autoImplicit false

namespace QueryTemplate

/-- A slot or the opening of a block: its number in the order of the source, its name, and the
blocks around it, by the numbers of their openings and whether they are inverted. -/
structure NumberedTag where
  number : Nat
  name : Text
  around : List (Nat × Bool)
  deriving DecidableEq, Repr

/-- Whether an answer lets the body of a block be entered. -/
def entersBlock (inverted : Bool) : Except EvaluationError Values → Bool
  | .ok values => values.isTruthy != inverted
  | .error _ => false

namespace Template

/-- The tags of a template, numbered from a first number on, inside of some blocks. -/
def tagsFrom : Template → Nat → List (Nat × Bool) → List NumberedTag
  | nil, _, _ => []
  | literal _ rest, first, around => rest.tagsFrom first around
  | slot name _ rest, first, around => ⟨first, name, around⟩ :: rest.tagsFrom (first + 1) around
  | block name inverted body rest, first, around =>
    ⟨first, name, around⟩ ::
      (body.tagsFrom (first + 1) ((first, inverted) :: around) ++
        rest.tagsFrom (first + 1 + body.names.length) around)

theorem map_number_tagsFrom (t : Template) (first : Nat) (around : List (Nat × Bool)) :
    (t.tagsFrom first around).map (·.number) = List.range' first t.names.length := by
  induction t generalizing first around with
  | nil => rfl
  | literal text rest ih => exact ih first around
  | slot name escaped rest ih => exact congrArg (first :: ·) (ih (first + 1) around)
  | block name inverted body rest bodyIH restIH =>
    simp only [tagsFrom, names, List.map_cons, List.map_append, bodyIH, restIH, List.length_cons,
      List.length_append, List.range'_succ, List.range'_append_1]

theorem map_name_tagsFrom (t : Template) (first : Nat) (around : List (Nat × Bool)) :
    (t.tagsFrom first around).map (·.name) = t.names := by
  induction t generalizing first around with
  | nil => rfl
  | literal text rest ih => exact ih first around
  | slot name escaped rest ih => exact congrArg (name :: ·) (ih (first + 1) around)
  | block name inverted body rest bodyIH restIH =>
    simp only [tagsFrom, names, List.map_cons, List.map_append, bodyIH, restIH]

variable (answers : Nat → Except EvaluationError Values)

/-- The tags that stand in entered blocks alone, in the order of the source. -/
def executedTags (t : Template) : List NumberedTag :=
  (t.tagsFrom 0 []).filter fun tag =>
    tag.around.all fun block => entersBlock block.2 (answers block.1)

/-- The first of some tags, up to one whose answer is an error, that one included. -/
def throughFailure : List NumberedTag → List NumberedTag
  | [] => []
  | tag :: tags =>
    match answers tag.number with
    | .ok _ => tag :: throughFailure tags
    | .error _ => [tag]

def askedTags (t : Template) : List NumberedTag := throughFailure answers (t.executedTags answers)

/-- The executed tags, given the blocks around a template that are entered. -/
def reachedTags : Template → Nat → List (Nat × Bool) → List NumberedTag
  | nil, _, _ => []
  | literal _ rest, first, around => rest.reachedTags first around
  | slot name _ rest, first, around =>
    ⟨first, name, around⟩ :: rest.reachedTags (first + 1) around
  | block name inverted body rest, first, around =>
    ⟨first, name, around⟩ ::
      ((if entersBlock inverted (answers first) then
          body.reachedTags (first + 1) ((first, inverted) :: around) else []) ++
        rest.reachedTags (first + 1 + body.names.length) around)

private theorem filter_tagsFrom (t : Template) (first : Nat) (around : List (Nat × Bool)) :
    ((t.tagsFrom first around).filter fun tag =>
        tag.around.all fun block => entersBlock block.2 (answers block.1)) =
      if around.all fun block => entersBlock block.2 (answers block.1) then
        t.reachedTags answers first around
      else [] := by
  induction t generalizing first around with
  | nil => simp [tagsFrom, reachedTags]
  | literal text rest ih => exact ih first around
  | slot name escaped rest ih =>
    rw [tagsFrom, List.filter_cons, ih]
    split <;> rfl
  | block name inverted body rest bodyIH restIH =>
    rw [tagsFrom, List.filter_cons, List.filter_append, bodyIH, restIH, List.all_cons]
    by_cases entered : (around.all fun block => entersBlock block.2 (answers block.1)) = true
    · simp only [entered, Bool.and_true, if_true]
      rfl
    · simp only [entered, Bool.and_false, Bool.false_eq_true, if_false]
      rfl

theorem executedTags_eq_reachedTags (t : Template) :
    t.executedTags answers = t.reachedTags answers 0 [] :=
  filter_tagsFrom answers t 0 []

/-! ## First failures -/

def firstFailure? (tags : List NumberedTag) : Option EvaluationError :=
  tags.findSome? fun tag => raised? (answers tag.number)

variable {answers} {tag : NumberedTag} {tags : List NumberedTag}

theorem throughFailure_of_ok {values : Values} (answered : answers tag.number = .ok values) :
    throughFailure answers (tag :: tags) = tag :: throughFailure answers tags := by
  simp only [throughFailure, answered]

theorem throughFailure_of_error {error : EvaluationError}
    (failed : answers tag.number = .error error) :
    throughFailure answers (tag :: tags) = [tag] := by
  simp only [throughFailure, failed]

theorem firstFailure?_of_ok {values : Values} (answered : answers tag.number = .ok values) :
    firstFailure? answers (tag :: tags) = firstFailure? answers tags := by
  simp only [firstFailure?, List.findSome?_cons, answered, raised?]

theorem firstFailure?_of_error {error : EvaluationError}
    (failed : answers tag.number = .error error) :
    firstFailure? answers (tag :: tags) = some error := by
  simp only [firstFailure?, List.findSome?_cons, failed, raised?]

theorem firstFailure?_append (front back : List NumberedTag) :
    firstFailure? answers (front ++ back) =
      (firstFailure? answers front).or (firstFailure? answers back) := by
  rw [firstFailure?, List.findSome?_append]
  rfl

theorem throughFailure_append (front back : List NumberedTag) :
    throughFailure answers (front ++ back) =
      throughFailure answers front ++
        (if firstFailure? answers front = none then throughFailure answers back else []) := by
  induction front with
  | nil => rfl
  | cons tag front ih =>
    rw [List.cons_append]
    cases answered : answers tag.number with
    | error error =>
      simp [throughFailure_of_error answered, firstFailure?_of_error answered]
    | ok values =>
      rw [throughFailure_of_ok answered, throughFailure_of_ok answered, ih,
        firstFailure?_of_ok answered, List.cons_append]

theorem throughFailure_of_none (succeeds : firstFailure? answers tags = none) :
    throughFailure answers tags = tags := by
  induction tags with
  | nil => rfl
  | cons tag tags ih =>
    cases answered : answers tag.number with
    | error error =>
      rw [firstFailure?_of_error answered] at succeeds
      cases succeeds
    | ok values =>
      rw [firstFailure?_of_ok answered] at succeeds
      rw [throughFailure_of_ok answered, ih succeeds]

theorem throughFailure_isPrefix (tags : List NumberedTag) :
    throughFailure answers tags <+: tags := by
  induction tags with
  | nil => exact List.prefix_rfl
  | cons tag tags ih =>
    cases answered : answers tag.number with
    | error error =>
      rw [throughFailure_of_error answered]
      exact ⟨tags, rfl⟩
    | ok values =>
      rw [throughFailure_of_ok answered]
      exact (List.prefix_cons_inj tag).mpr ih

theorem firstFailure?_eq_some_iff {error : EvaluationError} :
    firstFailure? answers tags = some error ↔
      ∃ last ∈ (throughFailure answers tags).getLast?, answers last.number = .error error := by
  induction tags with
  | nil => simp [firstFailure?, throughFailure]
  | cons tag tags ih =>
    cases answered : answers tag.number with
    | error raised =>
      simp [firstFailure?_of_error answered, throughFailure_of_error answered, answered]
    | ok values =>
      rw [firstFailure?_of_ok answered, throughFailure_of_ok answered, ih, List.getLast?_cons]
      cases throughFailure answers tags with
      | nil => simp [answered]
      | cons next later => simp [List.getLast?_cons]

end Template

/-! ## Questions and answers -/

section Runs

variable {State : Type}

/-- Asking a resolver for some tags, each in the state that the question before has left, gets
their answers and leaves it in a last state. -/
inductive Resolver.Asks (resolve : Resolver State) (answers : Nat → Except EvaluationError Values) :
    State → List NumberedTag → State → Prop where
  | nil {state : State} : Asks resolve answers state [] state
  | cons {state next last : State} {tag : NumberedTag} {tags : List NumberedTag} :
    resolve tag.name state = (answers tag.number, next) → Asks resolve answers next tags last →
      Asks resolve answers state (tag :: tags) last

variable {resolve : Resolver State} {answers : Nat → Except EvaluationError Values}

theorem Resolver.Asks.append {first middle last : State} {front back : List NumberedTag}
    (asked : resolve.Asks answers first front middle)
    (further : resolve.Asks answers middle back last) :
    resolve.Asks answers first (front ++ back) last := by
  induction asked with
  | nil => exact further
  | cons answered _ ih => exact .cons answered (ih further)

theorem Resolver.Asks.of_append {first last : State} {front back : List NumberedTag}
    (asked : resolve.Asks answers first (front ++ back) last) :
    ∃ middle, resolve.Asks answers first front middle ∧ resolve.Asks answers middle back last := by
  induction front generalizing first with
  | nil => exact ⟨first, .nil, asked⟩
  | cons tag front ih =>
    cases asked with
    | cons answered further =>
      obtain ⟨middle, earlier, later⟩ := ih further
      exact ⟨middle, .cons answered earlier, later⟩

/-- A rendering of some tags from a state: it asks for them up to the first that fails, and fails
with the error of that one. -/
structure Rendering.Answered (resolve : Resolver State)
    (answers : Nat → Except EvaluationError Values) (state : State) (tags : List NumberedTag)
    (rendering : Rendering State) : Prop where
  asks : resolve.Asks answers state (Template.throughFailure answers tags) rendering.state
  failure : rendering.failure? = Template.firstFailure? answers tags

namespace Rendering.Answered

variable {state next : State} {tag : NumberedTag} {tags : List NumberedTag}
  {rendering : Rendering State}

theorem nil {output : Text} : Answered resolve answers state [] ⟨output, state, none⟩ :=
  ⟨.nil, rfl⟩

theorem of_error {error : EvaluationError} {output : Text}
    (asked : resolve tag.name state = (.error error, next))
    (failed : answers tag.number = .error error) :
    Answered resolve answers state (tag :: tags) ⟨output, next, some error⟩ := by
  constructor
  · rw [Template.throughFailure_of_error failed]
    exact .cons (asked.trans (by rw [failed])) .nil
  · rw [Template.firstFailure?_of_error failed]

theorem of_ok {values : Values} (asked : resolve tag.name state = (.ok values, next))
    (succeeded : answers tag.number = .ok values)
    (further : Answered resolve answers next tags rendering) :
    Answered resolve answers state (tag :: tags) rendering := by
  constructor
  · rw [Template.throughFailure_of_ok succeeded]
    exact .cons (asked.trans (by rw [succeeded])) further.asks
  · rw [Template.firstFailure?_of_ok succeeded]
    exact further.failure

theorem andThen {front back : List NumberedTag} {following : Text → State → Rendering State}
    (first : Answered resolve answers state front rendering)
    (further : Answered resolve answers rendering.state back
      (following rendering.output rendering.state)) :
    Answered resolve answers state (front ++ back) (rendering.andThen following) := by
  obtain ⟨output, reached, failure⟩ := rendering
  have asked := first.asks
  have raised : failure = Template.firstFailure? answers front := first.failure
  cases failure with
  | none =>
    constructor
    · rw [Template.throughFailure_append, if_pos raised.symm]
      exact asked.append further.asks
    · rw [Template.firstFailure?_append, ← raised, Option.none_or]
      exact further.failure
  | some error =>
    constructor
    · rw [Template.throughFailure_append, if_neg (by simp [← raised]), List.append_nil]
      exact asked
    · rw [Template.firstFailure?_append, ← raised]
      rfl

end Rendering.Answered

namespace Template

/-- A rendering gets one answer for each number. Only the numbers of its own tags count. -/
theorem exists_answered (resolve : Resolver State) (t : Template) (first : Nat)
    (around : List (Nat × Bool)) (output : Text) (state : State) :
    ∃ answers : Nat → Except EvaluationError Values, ∀ others : Nat → Except EvaluationError Values,
      (∀ number, first ≤ number → number < first + t.names.length →
        others number = answers number) →
      Rendering.Answered resolve others state (t.reachedTags others first around)
        (t.renderAfter resolve output state) := by
  induction t generalizing first around output state with
  | nil => exact ⟨fun _ => .ok [], fun _ _ => .nil⟩
  | literal text rest ih => exact ih first around (output ++ text) state
  | slot name escaped rest ih =>
    rw [renderAfter]
    rcases asked : resolve name state with ⟨error | values, next⟩
    · refine ⟨fun _ => .error error, fun others same => ?_⟩
      exact .of_error asked (same first (by omega) (by simp [names]))
    · obtain ⟨later, further⟩ := ih (first + 1) around (output ++ values.shown escaped) next
      refine ⟨Function.update later first (.ok values), fun others same => ?_⟩
      simp only [names, List.length_cons] at same
      have own : others first = .ok values :=
        (same first (by omega) (by omega)).trans (Function.update_self ..)
      refine .of_ok asked own (further others fun number lower upper => ?_)
      rw [same number (by omega) (by omega), Function.update_of_ne (by omega)]
  | block name inverted body rest bodyIH restIH =>
    rw [renderAfter_block]
    rcases asked : resolve name state with ⟨error | values, next⟩
    · refine ⟨fun _ => .error error, fun others same => ?_⟩
      exact .of_error asked (same first (by omega) (by simp [names]))
    · -- The three ranges: the opening tag, the body, and what follows the block.
      let behind := first + 1 + body.names.length
      let entered := if values.isTruthy != inverted then body.renderAfter resolve output next
        else ⟨output, next, none⟩
      obtain ⟨inner, bodyAnswered⟩ := bodyIH (first + 1) ((first, inverted) :: around) output next
      obtain ⟨later, restAnswered⟩ := restIH behind around entered.output entered.state
      refine ⟨Function.update (fun number => if number < behind then inner number else later number)
        first (.ok values), fun others same => ?_⟩
      simp only [names, List.length_cons, List.length_append] at same
      have own : others first = .ok values :=
        (same first (by omega) (by omega)).trans (Function.update_self ..)
      have inBody : ∀ number, first + 1 ≤ number → number < behind →
          others number = inner number := by
        intro number lower upper
        rw [same number (by omega) (by omega), Function.update_of_ne (by omega), if_pos upper]
      have inRest : ∀ number, behind ≤ number → number < behind + rest.names.length →
          others number = later number := by
        intro number lower upper
        rw [same number (by omega) (by omega), Function.update_of_ne (by omega),
          if_neg (by omega)]
      refine .of_ok asked own (.andThen ?_ (restAnswered others inRest))
      simp only [own, entersBlock]
      split
      · exact bodyAnswered others inBody
      · exact .nil

end Template

theorem raised?_result (rendering : Rendering State) :
    raised? rendering.result = rendering.failure? := by
  obtain ⟨output, state, failure⟩ := rendering
  cases failure <;> rfl

/-! ## Recorded renderings -/

/-- A resolver that also records what it is asked and what it answers. -/
def Resolver.recording (resolve : Resolver State) :
    Resolver (State × List (Text × Except EvaluationError Values)) :=
  fun name state =>
    let (answer, next) := resolve name state.1
    (answer, (next, state.2 ++ [(name, answer)]))

/-- What is recorded of a tag. -/
def NumberedTag.answered (answers : Nat → Except EvaluationError Values) (tag : NumberedTag) :
    Text × Except EvaluationError Values :=
  (tag.name, answers tag.number)

theorem Resolver.Asks.of_recording
    {first last : State × List (Text × Except EvaluationError Values)} {tags : List NumberedTag}
    (asked : resolve.recording.Asks answers first tags last) :
    resolve.Asks answers first.1 tags last.1 ∧
      last.2 = first.2 ++ tags.map (NumberedTag.answered answers) := by
  induction asked with
  | nil => exact ⟨.nil, (List.append_nil _).symm⟩
  | cons answered _ ih =>
    obtain ⟨further, recorded⟩ := ih
    obtain ⟨own, rfl⟩ := Prod.mk.inj answered
    refine ⟨.cons (Prod.ext own rfl) further, ?_⟩
    rw [recorded, List.map_cons, NumberedTag.answered, ← own]
    exact List.append_assoc ..

def Rendering.recorded (rendering : Rendering State)
    (record : List (Text × Except EvaluationError Values)) :
    Rendering (State × List (Text × Except EvaluationError Values)) :=
  ⟨rendering.output, (rendering.state, record), rendering.failure?⟩

namespace Template

theorem exists_renderAfter_recording (resolve : Resolver State) (t : Template) (output : Text)
    (state : State) (record : List (Text × Except EvaluationError Values)) :
    ∃ last, t.renderAfter resolve.recording output (state, record) =
      (t.renderAfter resolve output state).recorded last := by
  induction t generalizing output state record with
  | nil => exact ⟨record, rfl⟩
  | literal text rest ih => exact ih (output ++ text) state record
  | slot name escaped rest ih =>
    rw [renderAfter, renderAfter, Resolver.recording]
    rcases resolve name state with ⟨error | values, next⟩
    · exact ⟨_, rfl⟩
    · exact ih (output ++ values.shown escaped) next _
  | block name inverted body rest bodyIH restIH =>
    rw [renderAfter, renderAfter, Resolver.recording]
    rcases resolve name state with ⟨error | values, next⟩
    · exact ⟨_, rfl⟩
    · simp only
      split
      · obtain ⟨inner, same⟩ := bodyIH output next (record ++ [(name, .ok values)])
        rw [same]
        rcases body.renderAfter resolve output next with ⟨written, reached, _ | error⟩
        · exact restIH written reached inner
        · exact ⟨inner, rfl⟩
      · exact restIH output next _

/-- What a rendering asks, with the answers. -/
def record (t : Template) (resolve : Resolver State) (state : State) :
    List (Text × Except EvaluationError Values) :=
  (t.renderBy resolve.recording (state, [])).2.2

/-- What a rendering asks for and gets, and what comes of it. Asking also for a record changes
neither the result nor the state. -/
structure Follows (t : Template) (resolve : Resolver State) (state : State)
    (answers : Nat → Except EvaluationError Values) : Prop where
  executed : t.askedTags answers <+: t.executedTags answers
  named : ((t.askedTags answers).map (·.name)).Sublist t.names
  ordered : (t.askedTags answers).Pairwise fun earlier later => earlier.number < later.number
  asks : resolve.Asks answers state (t.askedTags answers) (t.renderBy resolve state).2
  record : t.record resolve state = (t.askedTags answers).map (NumberedTag.answered answers)
  undisturbed : t.renderBy resolve.recording (state, []) =
    ((t.renderBy resolve state).1, (t.renderBy resolve state).2, t.record resolve state)
  failure : ∀ error, (t.renderBy resolve state).1 = .error error ↔
    ∃ last ∈ (t.askedTags answers).getLast?, answers last.number = .error error
  success : ∀ output, (t.renderBy resolve state).1 = .ok output →
    t.askedTags answers = t.executedTags answers

theorem askedTags_sublist (t : Template) (answers : Nat → Except EvaluationError Values) :
    (t.askedTags answers).Sublist (t.tagsFrom 0 []) :=
  (throughFailure_isPrefix _).sublist.trans List.filter_sublist

theorem names_askedTags_sublist (t : Template) (answers : Nat → Except EvaluationError Values) :
    ((t.askedTags answers).map (·.name)).Sublist t.names := by
  rw [← t.map_name_tagsFrom 0 []]
  exact (t.askedTags_sublist answers).map _

theorem pairwise_askedTags (t : Template) (answers : Nat → Except EvaluationError Values) :
    (t.askedTags answers).Pairwise fun earlier later => earlier.number < later.number := by
  have ordered : (List.range' 0 t.names.length).Pairwise (· < ·) := List.pairwise_lt_range'
  rw [← t.map_number_tagsFrom 0 [], List.pairwise_map] at ordered
  exact ordered.sublist (t.askedTags_sublist answers)

theorem exists_follows (t : Template) (resolve : Resolver State) (state : State) :
    ∃ answers, t.Follows resolve state answers := by
  obtain ⟨answers, answered⟩ := t.exists_answered resolve.recording 0 [] [] (state, [])
  refine ⟨answers, ?_⟩
  obtain ⟨asks, failure⟩ := answered answers fun _ _ _ => rfl
  obtain ⟨last, recording⟩ := t.exists_renderAfter_recording resolve [] state []
  rw [recording, ← executedTags_eq_reachedTags] at asks failure
  obtain ⟨asked, recorded⟩ := asks.of_recording
  obtain rfl : last = (t.askedTags answers).map (NumberedTag.answered answers) := recorded
  have raised : raised? (t.renderBy resolve state).1 =
      firstFailure? answers (t.executedTags answers) := (raised?_result _).trans failure
  refine ⟨throughFailure_isPrefix _, t.names_askedTags_sublist answers,
    t.pairwise_askedTags answers, asked, ?_, ?_, fun error => ?_, fun output rendered => ?_⟩
  · rw [record, renderBy, recording]
    rfl
  · rw [record, renderBy, recording]
    rfl
  · rw [← raised?_eq_some_iff, raised]
    exact firstFailure?_eq_some_iff
  · rw [rendered] at raised
    exact throughFailure_of_none raised.symm

end Template

end Runs

end QueryTemplate
