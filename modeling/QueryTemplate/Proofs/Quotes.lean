import QueryTemplate.Proofs.Evaluation

/-! No escaped value reaches the quotes of a statement. Two renderings of one template that enter
the same blocks and write the same unescaped texts have the same quotes and ampersands in the same
order, whatever the escaped values are. -/

set_option autoImplicit false

namespace QueryTemplate

namespace Text

/-- The quotes and ampersands of a text, in their order. -/
def quotes (text : Text) : Text := text.filter needsEscape

theorem quotes_append (front back : Text) :
    quotes (front ++ back) = quotes front ++ quotes back :=
  List.filter_append front back

/-- The words that stand for quotes and ampersands hold none themselves. -/
theorem quotes_escapeChar (c : Char) : quotes (escapeChar c) = [] := by
  cases replaced : needsEscape c with
  | false =>
    rw [escapeChar_of_not_needsEscape replaced]
    exact List.filter_eq_nil_iff.mpr (by simp [replaced])
  | true =>
    simp only [needsEscape, Bool.or_eq_true, beq_iff_eq] at replaced
    rcases replaced with (rfl | rfl) | rfl
    · rfl
    · rfl
    · rfl

theorem quotes_escape (text : Text) : quotes (escape text) = [] := by
  rw [escape_eq_flatMap, quotes, List.filter_flatMap]
  exact List.flatMap_eq_nil_iff.mpr fun c _ => quotes_escapeChar c

end Text

namespace Template

def blockNames : Template → List Text
  | nil => []
  | literal _ rest => rest.blockNames
  | slot _ _ rest => rest.blockNames
  | block name _ body rest => name :: (body.blockNames ++ rest.blockNames)

/-- The names of slots that are not escaped, as often as they occur. -/
def rawNames : Template → List Text
  | nil => []
  | literal _ rest => rest.rawNames
  | slot name escaped rest => if escaped then rest.rawNames else name :: rest.rawNames
  | block _ _ body rest => body.rawNames ++ rest.rawNames

/-- Answers that give a template one outline: the blocks agree on whether their values are truthy,
and the slots that are not escaped on what they write. Of an answer that is an error nothing is
asked. -/
structure SameOutline (t : Template) (left right : Text → Except EvaluationError Values) :
    Prop where
  blocks : ∀ name ∈ t.blockNames, ∀ leftValues rightValues, left name = .ok leftValues →
    right name = .ok rightValues → leftValues.isTruthy = rightValues.isTruthy
  raws : ∀ name ∈ t.rawNames, ∀ leftValues rightValues, left name = .ok leftValues →
    right name = .ok rightValues → leftValues.canonical = rightValues.canonical

section Outline

variable {left right : Text → Except EvaluationError Values}

theorem SameOutline.mono {t u : Template} (same : t.SameOutline left right)
    (blocks : u.blockNames ⊆ t.blockNames) (raws : u.rawNames ⊆ t.rawNames) :
    u.SameOutline left right :=
  ⟨fun name member => same.blocks name (blocks member),
    fun name member => same.raws name (raws member)⟩

private theorem SameOutline.after_slot {name : Text} {escaped : Bool} {rest : Template}
    (same : (slot name escaped rest).SameOutline left right) : rest.SameOutline left right := by
  refine same.mono (List.Subset.refl _) ?_
  rw [rawNames]
  cases escaped with
  | true => exact List.Subset.refl _
  | false => exact List.subset_cons_self name rest.rawNames

private theorem SameOutline.of_block {name : Text} {inverted : Bool} {body rest : Template}
    (same : (block name inverted body rest).SameOutline left right) :
    body.SameOutline left right ∧ rest.SameOutline left right := by
  constructor
  · exact same.mono (List.subset_cons_of_subset name (List.subset_append_left _ _))
      (List.subset_append_left _ _)
  · exact same.mono (List.subset_cons_of_subset name (List.subset_append_right _ _))
      (List.subset_append_right _ _)

private theorem SameOutline.quotes_shown {name : Text} {escaped : Bool} {rest : Template}
    (same : (slot name escaped rest).SameOutline left right) {leftValues rightValues : Values}
    (leftAnswer : left name = .ok leftValues) (rightAnswer : right name = .ok rightValues) :
    Text.quotes (leftValues.shown escaped) = Text.quotes (rightValues.shown escaped) := by
  cases escaped with
  | true => exact (Text.quotes_escape _).trans (Text.quotes_escape _).symm
  | false =>
    have written := same.raws name List.mem_cons_self leftValues rightValues leftAnswer rightAnswer
    exact congrArg Text.quotes written

theorem quotes_evaluate (t : Template) (same : t.SameOutline left right) {leftText rightText : Text}
    (leftEvaluated : t.evaluate left = .ok leftText)
    (rightEvaluated : t.evaluate right = .ok rightText) :
    Text.quotes leftText = Text.quotes rightText := by
  induction t generalizing leftText rightText with
  | nil =>
    cases leftEvaluated
    cases rightEvaluated
    rfl
  | literal text rest ih =>
    obtain ⟨leftTail, leftFurther, rfl⟩ := evaluate_literal_eq_ok leftEvaluated
    obtain ⟨rightTail, rightFurther, rfl⟩ := evaluate_literal_eq_ok rightEvaluated
    have further : rest.SameOutline left right := ⟨same.blocks, same.raws⟩
    rw [Text.quotes_append, Text.quotes_append, ih further leftFurther rightFurther]
  | slot name escaped rest ih =>
    obtain ⟨leftValues, leftTail, leftAnswer, leftFurther, rfl⟩ :=
      evaluate_slot_eq_ok leftEvaluated
    obtain ⟨rightValues, rightTail, rightAnswer, rightFurther, rfl⟩ :=
      evaluate_slot_eq_ok rightEvaluated
    rw [Text.quotes_append, Text.quotes_append, same.quotes_shown leftAnswer rightAnswer,
      ih same.after_slot leftFurther rightFurther]
  | block name inverted body rest bodyIH restIH =>
    obtain ⟨leftValues, leftInner, leftTail, leftAnswer, leftFurther, rfl, leftRan⟩ :=
      evaluate_block_eq_ok leftEvaluated
    obtain ⟨rightValues, rightInner, rightTail, rightAnswer, rightFurther, rfl, rightRan⟩ :=
      evaluate_block_eq_ok rightEvaluated
    have truth := same.blocks name List.mem_cons_self leftValues rightValues leftAnswer rightAnswer
    have inner : Text.quotes leftInner = Text.quotes rightInner := by
      rw [truth] at leftRan
      split at leftRan
      · rename_i entered
        rw [if_pos entered] at rightRan
        exact bodyIH same.of_block.1 leftRan rightRan
      · rename_i skipped
        rw [if_neg skipped] at rightRan
        rw [leftRan, rightRan]
    rw [Text.quotes_append, Text.quotes_append, inner,
      restIH same.of_block.2 leftFurther rightFurther]

end Outline

/-- Escaped values cannot add, remove or move a quote or an ampersand: two renderings that succeed
with steady answers of one outline have the same quotes and ampersands in the same order. -/
theorem quotes_render (t : Template) :
    (∀ {Left Right : Type} (left : Resolver Left) (leftState : Left) (right : Resolver Right)
      (rightState : Right), left.Steady leftState → right.Steady rightState →
      t.SameOutline (fun name => (left name leftState).1) (fun name => (right name rightState).1) →
      ∀ leftText rightText, (t.renderBy left leftState).1 = .ok leftText →
        (t.renderBy right rightState).1 = .ok rightText →
        leftText.filter Text.needsEscape = rightText.filter Text.needsEscape) ∧
    (∀ {Left Right : Type} (left : Registry Left) (leftContext : Left) (right : Registry Right)
      (rightContext : Right), left.IsContextual → right.IsContextual →
      t.SameOutline (fun name => (left.resolve leftContext name).1)
        (fun name => (right.resolve rightContext name).1) →
      ∀ leftText rightText, (t.render left leftContext).1 = .ok leftText →
        (t.render right rightContext).1 = .ok rightText →
        leftText.filter Text.needsEscape = rightText.filter Text.needsEscape) := by
  constructor
  · intro Left Right left leftState right rightState leftSteady rightSteady same leftText rightText
      leftRendered rightRendered
    rw [t.renderBy_of_answers leftSteady] at leftRendered
    rw [t.renderBy_of_answers rightSteady] at rightRendered
    exact t.quotes_evaluate same leftRendered rightRendered
  · intro Left Right left leftContext right rightContext leftContextual rightContextual same
      leftText rightText leftRendered rightRendered
    rw [render, t.renderBy_of_answers (leftContextual.steady leftContext)] at leftRendered
    rw [render, t.renderBy_of_answers (rightContextual.steady rightContext)] at rightRendered
    exact t.quotes_evaluate same leftRendered rightRendered

theorem quotes_render_greeting :
    let t := literal ['\''] (block ['n'] false (slot ['n'] true nil) (literal ['\'', '&'] nil))
    let plain : Registry Unit := Registry.register {} ['n'] (.single (.text ['O']))
    let quoted : Registry Text := Registry.register {} ['n']
      (.ofContext ['n'] fun content => .ok [.text (content ++ ['\'', '"', '&'])])
    (t.render plain ()).1 = .ok "'O'&".toList ∧
      (t.render quoted ['X']).1 = .ok "'X<SQUOTE><DQUOTE><AMP>'&".toList ∧
      "'O'&".toList.filter Text.needsEscape =
        "'X<SQUOTE><DQUOTE><AMP>'&".toList.filter Text.needsEscape := by
  intro t plain quoted
  have plainContextual : plain.IsContextual :=
    Registry.isContextual_empty.register _ fun _ _ _ => rfl
  have quotedContextual : quoted.IsContextual :=
    Registry.isContextual_empty.register _ fun _ _ _ => rfl
  have same : t.SameOutline (fun name => (plain.resolve () name).1)
      (fun name => (quoted.resolve ['X'] name).1) := by
    constructor
    · intro name member leftValues rightValues leftAnswer rightAnswer
      cases List.mem_singleton.mp member
      cases leftAnswer
      cases rightAnswer
      rfl
    · intro name member
      cases member
  have plainText : (t.render plain ()).1 = .ok "'O'&".toList := rfl
  have quotedText : (t.render quoted ['X']).1 = .ok "'X<SQUOTE><DQUOTE><AMP>'&".toList := rfl
  exact ⟨plainText, quotedText, (quotes_render t).2 plain () quoted ['X'] plainContextual
    quotedContextual same _ _ plainText quotedText⟩

end Template

end QueryTemplate
