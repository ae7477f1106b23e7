import Mathlib.Data.List.Induction
import QueryTemplate.Path.Bind
import QueryTemplate.Proofs.Evaluation

/-! Whom a rendering that fails blames. The tags that are executed are those whose enclosing blocks
are all entered. A rendering fails if one of them names a bind that fails, and then with the error
of the first. Over documents, a bind fails if its expression is malformed, or if it looks for
elements in a document that has none. -/

set_option autoImplicit false

namespace QueryTemplate

/-! ## Executed tags -/

/-- A slot or the opening of a block, by its name, and the blocks around it: their names, and
whether they are inverted. -/
structure PlacedTag where
  name : Text
  around : List (Text × Bool)
  deriving DecidableEq, Repr

namespace Template

/-- The tags of a template in the order of its source, inside of some blocks. -/
def placedTags : Template → List (Text × Bool) → List PlacedTag
  | nil, _ => []
  | literal _ rest, around => rest.placedTags around
  | slot name _ rest, around => ⟨name, around⟩ :: rest.placedTags around
  | block name inverted body rest, around =>
    ⟨name, around⟩ :: (body.placedTags ((name, inverted) :: around) ++ rest.placedTags around)

variable (answer : Text → Except EvaluationError Values)

/-- Whether the body of a block is entered: its bind does not fail, and is truthy or, if the block
is inverted, is not. -/
def isEntered (block : Text × Bool) : Bool :=
  match answer block.1 with
  | .ok values => values.isTruthy != block.2
  | .error _ => false

/-- The names of the tags that stand in entered blocks alone, in the order of the source. -/
def executed (t : Template) : List Text :=
  ((t.placedTags []).filter fun tag => tag.around.all (isEntered answer)).map (·.name)

/-- The names of the tags that a rendering comes to if no bind fails. -/
def reached : Template → List Text
  | nil => []
  | literal _ rest => rest.reached
  | slot name _ rest => name :: rest.reached
  | block name inverted body rest =>
    name :: ((if isEntered answer (name, inverted) then body.reached else []) ++ rest.reached)

private theorem filter_placedTags (t : Template) (around : List (Text × Bool)) :
    ((t.placedTags around).filter fun tag => tag.around.all (isEntered answer)).map (·.name) =
      if around.all (isEntered answer) then t.reached answer else [] := by
  induction t generalizing around with
  | nil => simp [placedTags, reached]
  | literal text rest ih => exact ih around
  | slot name escaped rest ih =>
    have further := ih around
    rw [placedTags, List.filter_cons]
    split at further
    · rename_i entered
      rw [if_pos entered, if_pos entered, List.map_cons, further, reached]
    · rename_i skipped
      rw [if_neg skipped, if_neg skipped, further]
  | block name inverted body rest bodyIH restIH =>
    have inner := bodyIH ((name, inverted) :: around)
    have further := restIH around
    rw [placedTags, List.filter_cons, List.filter_append]
    rw [List.all_cons] at inner
    split at further
    · rename_i entered
      rw [entered, Bool.and_true] at inner
      rw [if_pos entered, if_pos entered, List.map_cons, List.map_append, inner, further, reached]
    · -- The body lies in a skipped block too, so nothing of it passes either.
      rename_i skipped
      rw [Bool.not_eq_true] at skipped
      rw [skipped, Bool.and_false] at inner
      simp only [skipped, Bool.false_eq_true, if_false, List.map_append, inner, further] at inner ⊢
      rfl

theorem executed_eq_reached (t : Template) : t.executed answer = t.reached answer :=
  filter_placedTags answer t []

end Template

/-! ## First failures -/

def raised? {α : Type} : Except EvaluationError α → Option EvaluationError
  | .ok _ => none
  | .error error => some error

@[simp] theorem raised?_map {α β : Type} (f : α → β) (outcome : Except EvaluationError α) :
    raised? (outcome.map f) = raised? outcome := by
  cases outcome <;> rfl

theorem raised?_bind {α β : Type} {next : α → Except EvaluationError β}
    {later : Option EvaluationError} (same : ∀ value, raised? (next value) = later)
    (outcome : Except EvaluationError α) :
    raised? (outcome.bind next) = (raised? outcome).or later := by
  cases outcome with
  | error error => rfl
  | ok value => exact same value

theorem raised?_eq_some_iff {α : Type} {outcome : Except EvaluationError α}
    {error : EvaluationError} : raised? outcome = some error ↔ outcome = .error error := by
  cases outcome <;> simp [raised?]

theorem raised?_eq_none_iff {α : Type} {outcome : Except EvaluationError α} :
    raised? outcome = none ↔ ∀ error, outcome ≠ .error error := by
  cases outcome <;> simp [raised?]

namespace Template

variable {answer : Text → Except EvaluationError Values}

private theorem findSome?_cons (name : Text) (names : List Text) :
    ((name :: names).findSome? fun name => raised? (answer name)) =
      (raised? (answer name)).or (names.findSome? fun name => raised? (answer name)) := by
  rw [List.findSome?_cons]
  cases raised? (answer name) <;> rfl

private theorem raised?_evaluate (t : Template) :
    raised? (t.evaluate answer) =
      (t.reached answer).findSome? fun name => raised? (answer name) := by
  induction t with
  | nil => rfl
  | literal text rest ih => exact (raised?_map _ _).trans ih
  | slot name escaped rest ih =>
    rw [evaluate, reached, findSome?_cons, raised?_bind fun values => raised?_map _ _, ih]
  | block name inverted body rest bodyIH restIH =>
    rw [evaluate, reached, findSome?_cons]
    cases answered : answer name with
    | error error => rfl
    | ok values =>
      rw [isEntered, answered]
      change raised? (if values.isTruthy != inverted then _ else _) = List.findSome? _ _
      split
      · rw [raised?_bind fun inner => raised?_map _ _, bodyIH, restIH, List.findSome?_append]
      · exact restIH

theorem evaluate_eq_error_iff {t : Template} {error : EvaluationError} :
    t.evaluate answer = .error error ↔
      ∃ before name after, t.executed answer = before ++ name :: after ∧
        answer name = .error error ∧
        ∀ earlier ∈ before, ∀ raised, answer earlier ≠ .error raised := by
  rw [← raised?_eq_some_iff, raised?_evaluate, executed_eq_reached, List.findSome?_eq_some_iff]
  simp only [raised?_eq_some_iff, raised?_eq_none_iff]

theorem exists_evaluate_eq_error_iff {t : Template} :
    (∃ error, t.evaluate answer = .error error) ↔
      ∃ name ∈ t.executed answer, ∃ error, answer name = .error error := by
  simp only [← raised?_eq_some_iff, raised?_evaluate, executed_eq_reached,
    ← Option.isSome_iff_exists, List.findSome?_isSome_iff]

end Template

/-! ## Binds over documents -/

theorem Document.isComplex_eq_false_iff {document : Document} : document.isComplex = false ↔
    (∀ members, document ≠ .object members) ∧ ∀ items, document ≠ .array items := by
  cases document <;> simp [Document.isComplex]

namespace DocumentBind

/-- What fails in a document, and the error: a malformed expression, and one that looks for elements
in a document that has none. -/
inductive Fails (document : Document) : DocumentBind → EvaluationError → Prop where
  | malformed {name expression : Text} {error : PathError} :
    PathExpression.parse expression = .error error →
      Fails document (.path name expression) (.expression name error.message)
  | scalar {name expression : Text} {path : PathExpression} :
    PathExpression.parse expression = .ok path → path.isSelf = false →
      (∀ members, document ≠ .object members) → (∀ items, document ≠ .array items) →
      Fails document (.path name expression)
        (.incompatibleContext name "context is a scalar, not a document".toList)

variable {document : Document} {bind : DocumentBind} {error : EvaluationError}

theorem Fails.bind_eq (fails : bind.Fails document error) : error.bind = bind.name := by
  cases fails <;> rfl

/-- A bind fails whenever its parameter does, whatever that was asked before. -/
theorem answer_eq_error_iff {earlier : List Document} :
    bind.parameter.answer earlier document = .error error ↔ bind.Fails document error := by
  constructor
  · intro failed
    cases bind with
    | constant name value => cases failed
    | sequence name values => cases failed
    | path name expression =>
      change PathBind.resolve ⟨name, expression⟩ document = .error error at failed
      rw [PathBind.resolve, PathBind.compiled] at failed
      cases parsed : PathExpression.parse expression with
      | error cause =>
        rw [parsed] at failed
        cases failed
        exact .malformed parsed
      | ok path =>
        simp only [parsed] at failed
        split at failed
        · rename_i scalar
          cases failed
          rw [Bool.and_eq_true, Bool.not_eq_true', Bool.not_eq_true'] at scalar
          obtain ⟨objects, arrays⟩ := Document.isComplex_eq_false_iff.mp scalar.2
          exact .scalar parsed scalar.1 objects arrays
        · cases failed
  · intro fails
    cases fails with
    | malformed parsed =>
      change PathBind.resolve _ document = _
      rw [PathBind.resolve, PathBind.compiled, parsed]
    | scalar parsed led objects arrays =>
      change PathBind.resolve _ document = _
      have scalar := Document.isComplex_eq_false_iff.mpr ⟨objects, arrays⟩
      simp [PathBind.resolve, PathBind.compiled, parsed, led, scalar]

theorem isContextual_parameter (bind : DocumentBind) : bind.parameter.IsContextual := by
  intro earlier later context
  cases bind <;> rfl

/-- The registration that counts under a name, the last one. -/
def registered? (binds : List DocumentBind) (name : Text) : Option DocumentBind :=
  binds.reverse.find? fun bind => bind.name == name

def FailsUnder (binds : List DocumentBind) (document : Document) (name : Text)
    (error : EvaluationError) : Prop :=
  ∃ bind, registered? binds name = some bind ∧ bind.Fails document error

theorem FailsUnder.bind_eq {binds : List DocumentBind} {name : Text}
    (fails : FailsUnder binds document name error) : error.bind = name := by
  obtain ⟨bind, found, failed⟩ := fails
  exact failed.bind_eq.trans (by simpa using List.find?_some found)

end DocumentBind

namespace Registry

theorem ofBinds_concat (binds : List DocumentBind) (last : DocumentBind) :
    ofBinds (binds ++ [last]) = (ofBinds binds).register last.name last.parameter := by
  rw [ofBinds, List.foldl_append]
  rfl

theorem lookup?_ofBinds (binds : List DocumentBind) (name : Text) :
    (ofBinds binds).lookup? name =
      (DocumentBind.registered? binds name).map fun bind => ⟨bind.name, bind.parameter, []⟩ :=
  lookup?_foldl_register DocumentBind.name DocumentBind.parameter binds name

theorem isContextual_ofBinds (binds : List DocumentBind) : (ofBinds binds).IsContextual := by
  induction binds using List.reverseRecOn with
  | nil => exact isContextual_empty
  | append_singleton binds last ih =>
    rw [ofBinds_concat]
    exact ih.register last.name last.isContextual_parameter

theorem resolve_ofBinds {binds : List DocumentBind} {name : Text} {bind : DocumentBind}
    (found : DocumentBind.registered? binds name = some bind) (document : Document) :
    ((ofBinds binds).resolve document name).1 = bind.parameter.answer [] document := by
  rw [resolve, lookup?_ofBinds, found]
  rfl

theorem resolve_ofBinds_eq_error_iff {binds : List DocumentBind} {document : Document}
    {name : Text} {error : EvaluationError} :
    ((ofBinds binds).resolve document name).1 = .error error ↔
      DocumentBind.FailsUnder binds document name error := by
  rw [DocumentBind.FailsUnder]
  cases found : DocumentBind.registered? binds name with
  | none => simp [resolve, lookup?_ofBinds, found]
  | some bind => simp [resolve_ofBinds found, DocumentBind.answer_eq_error_iff]

end Registry

namespace Template

theorem render_ofBinds (binds : List DocumentBind) (document : Document) (t : Template) :
    (t.render (Registry.ofBinds binds) document).1 =
      t.evaluate fun name => ((Registry.ofBinds binds).resolve document name).1 :=
  t.renderBy_of_answers ((Registry.isContextual_ofBinds binds).steady document)

/-- A rendering over a document fails if the bind of an executed tag does. The error is that of the
first such tag in the source and blames its name. No template fails if all expressions can be read
and the document has elements. -/
theorem render_ofBinds_blames (binds : List DocumentBind) (document : Document) (t : Template) :
    let answer name := ((Registry.ofBinds binds).resolve document name).1
    let result := (t.render (Registry.ofBinds binds) document).1
    ((∃ error, result = .error error) ↔
        ∃ name ∈ t.executed answer, ∃ error, DocumentBind.FailsUnder binds document name error) ∧
      (∀ error, result = .error error ↔
        ∃ before after, t.executed answer = before ++ error.bind :: after ∧
          DocumentBind.FailsUnder binds document error.bind error ∧
          ∀ earlier ∈ before, ∀ raised,
            ¬ DocumentBind.FailsUnder binds document earlier raised) ∧
      ((∀ name expression, .path name expression ∈ binds →
          ∃ path, PathExpression.parse expression = .ok path) →
        ((∃ members, document = .object members) ∨ ∃ items, document = .array items) →
        ∃ text, result = .ok text) := by
  intro answer result
  have evaluated : result = t.evaluate answer := render_ofBinds binds document t
  have fails {name : Text} {error : EvaluationError} : answer name = .error error ↔
      DocumentBind.FailsUnder binds document name error :=
    Registry.resolve_ofBinds_eq_error_iff
  have anywhere : (∃ error, result = .error error) ↔
      ∃ name ∈ t.executed answer, ∃ error, DocumentBind.FailsUnder binds document name error := by
    simp only [evaluated, exists_evaluate_eq_error_iff, fails]
  refine ⟨anywhere, ?_, ?_⟩
  · intro error
    rw [evaluated, evaluate_eq_error_iff]
    simp only [ne_eq, fails]
    constructor
    · rintro ⟨before, name, after, executed, failed, clean⟩
      obtain rfl := failed.bind_eq
      exact ⟨before, after, executed, failed, clean⟩
    · rintro ⟨before, after, executed, failed, clean⟩
      exact ⟨before, error.bind, after, executed, failed, clean⟩
  · intro wellFormed hasElements
    cases rendered : result with
    | ok text => exact ⟨text, rfl⟩
    | error error =>
      obtain ⟨name, _, raised, bind, found, failed⟩ := anywhere.mp ⟨error, rendered⟩
      have registered : bind ∈ binds := List.mem_reverse.mp (List.mem_of_find?_eq_some found)
      cases failed with
      | malformed malformed =>
        obtain ⟨path, parsed⟩ := wellFormed _ _ registered
        rw [malformed] at parsed
        cases parsed
      | scalar parsed led objects arrays =>
        rcases hasElements with ⟨members, object⟩ | ⟨items, array⟩
        · exact absurd object (objects members)
        · exact absurd array (arrays items)

/-- A scalar, whose elements a tag asks for behind a block that is skipped; and an object, where
nothing fails. -/
theorem render_ofBinds_blames_scalar :
    let binds : List DocumentBind := [.constant ['x'] (.integer 1), .path ['s'] "A//B".toList,
      .path ['c'] ".".toList, .path ['x'] "A".toList]
    let t := block ['m'] false (slot ['s'] true nil)
      (block ['c'] false (slot ['x'] true nil) (slot ['s'] true nil))
    let error := .incompatibleContext ['x'] "context is a scalar, not a document".toList
    (t.render (.ofBinds binds) (.string ['v'])).1 = .error error ∧
      DocumentBind.FailsUnder binds (.string ['v']) ['x'] error ∧
      ∃ text, (t.render (.ofBinds [.path ['s'] "A/B".toList]) (.object [])).1 = .ok text := by
  intro binds t error
  have failed : (t.render (.ofBinds binds) (.string ['v'])).1 = .error error := by decide +kernel
  obtain ⟨_, first, _⟩ := render_ofBinds_blames binds (.string ['v']) t
  obtain ⟨_, _, _, fails, _⟩ := (first error).mp failed
  obtain ⟨_, _, never⟩ := render_ofBinds_blames [.path ['s'] "A/B".toList] (.object []) t
  refine ⟨failed, fails, never ?_ (.inl ⟨[], rfl⟩)⟩
  intro name expression member
  cases List.mem_singleton.mp member
  exact ⟨⟨[[⟨.name ['A'], none⟩, ⟨.name ['B'], none⟩]]⟩, by decide +kernel⟩

end Template

end QueryTemplate
