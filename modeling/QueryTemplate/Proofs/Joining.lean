import QueryTemplate.Proofs.BlamedTags
import QueryTemplate.Proofs.RenderingParts

/-! Sources one behind the other. If both are templates, so are they together, and rendering them
together is rendering one after the other; the only exception is a brace at the end of the first
that meets one at the start of the second. Between the two tags of a block a template is the body
of that block. -/

set_option autoImplicit false

namespace QueryTemplate

namespace Template

def endsWithLiteral (t : Template) : Bool := t.reverse.startsWithLiteral

/-- The nodes of two templates in one. A text at the end of the first and one at the start of the
second are one text. -/
inductive Joins : Template → Template → Template → Prop
  | texts {s rest : Template} {before after : Text} :
      Joins (s ++ literal before nil) (literal after rest) (s ++ literal (before ++ after) rest)
  | apart {s t : Template} :
      ¬ (s.endsWithLiteral = true ∧ t.startsWithLiteral = true) → Joins s t (s ++ t)

theorem Joins.renderBy_eq {s t u : Template} (joins : Joins s t u) {State : Type}
    (resolve : Resolver State) (state : State) :
    u.renderBy resolve state = renderBoth resolve s t state := by
  cases joins with
  | apart => exact renderBy_append resolve s t state
  | @texts s rest before after =>
    rw [← renderBy_append, append_assoc, renderBy, renderBy, renderAfter_append,
      renderAfter_append]
    have same : (literal (before ++ after) rest).renderAfter resolve =
        (literal before nil ++ literal after rest).renderAfter resolve := by
      funext output state
      simp only [literal_append, nil_append, renderAfter, List.append_assoc]
    rw [same]

theorem reverse_reverseOnto (t level : Template) :
    (t.reverseOnto level).reverse = level.reverse ++ t := by
  rw [reverse, reverseOnto_reverseOnto, append_nil, reverseOnto_eq]

theorem Flattens.moved {t : Template} {tokens : List Token} (flattens : t.Flattens tokens)
    (distance : Nat) : t.Flattens (tokens.map (Token.moved distance)) := by
  induction flattens with
  | nil => exact .nil
  | literal _ ih => exact .literal ih
  | slot _ ih => exact .slot ih
  | block _ _ bodyIH ih =>
    rw [List.map_cons, List.map_append, List.map_cons]
    exact .block bodyIH ih

end Template

namespace Nesting

theorem steps_splice (nesting : Nesting) (front back : List Token) :
    nesting.steps (Token.splice front back) = nesting.steps (front ++ back) := by
  cases back with
  | nil => rw [Token.splice, List.append_nil]
  | cons token back =>
    rw [Token.splice, steps_append, steps_push, ← steps_append, List.append_assoc,
      List.singleton_append]

/-- Behind a template that is complete, the tokens of another one are read as its nodes. -/
theorem exists_joins {t : Template} {tokens : List Token} (flattens : t.Flattens tokens)
    (separate : t.Separate) (level : Template) :
    ∃ next, steps ⟨level, []⟩ tokens = .ok ⟨next, []⟩ ∧
      Template.Joins level.reverse t next.reverse := by
  by_cases texts : level.startsWithLiteral = true ∧ t.startsWithLiteral = true
  · obtain ⟨levelText, text⟩ := texts
    cases level with
    | literal before s =>
      cases flattens with
      | @literal after rest tokens flattens =>
        have further := steps_flattens_append flattens separate.2 (.literal (before ++ after) s)
          (fun starts => absurd starts (by simp [separate.1])) [] []
        rw [List.append_nil] at further
        refine ⟨_, further, ?_⟩
        rw [Template.reverse_reverseOnto, Template.reverse_literal, Template.reverse_literal,
          Template.append_assoc]
        exact .texts
      | _ => cases text
    | _ => cases levelText
  · have further := steps_flattens_append flattens separate level
      (fun starts => by simpa [starts] using texts) [] []
    rw [List.append_nil] at further
    refine ⟨_, further, ?_⟩
    rw [Template.reverse_reverseOnto]
    apply Template.Joins.apart
    rwa [Template.endsWithLiteral, Template.reverse_reverse]

end Nesting

namespace Template

theorem exists_level_of_parse {source : Text} {t : Template} (parsed : parse source = .ok t) :
    ∃ tokens level, Token.ofSource source = .ok tokens ∧
      Nesting.steps {} tokens = .ok ⟨level, []⟩ ∧ level.reverse = t := by
  rw [parse_eq_bind] at parsed
  cases reads : Token.ofSource source with
  | error raised =>
    rw [reads] at parsed
    cases parsed
  | ok tokens =>
    rw [reads] at parsed
    simp only [Except.bind] at parsed
    cases run : Nesting.steps {} tokens with
    | error raised =>
      rw [run] at parsed
      cases parsed
    | ok nesting =>
      rw [run] at parsed
      obtain ⟨level, openBlocks⟩ := nesting
      cases openBlocks with
      | nil => exact ⟨tokens, level, rfl, run, Except.ok.inj parsed⟩
      | cons block outer => cases parsed

theorem exists_joins_of_parse {first second : Text} {s t : Template}
    (parsed : parse first = .ok s) (further : parse second = .ok t)
    (apart : ¬ (['{'] <:+ first ∧ ['{'] <+: second)) :
    ∃ u, parse (first ++ second) = .ok u ∧ Joins s t u := by
  obtain ⟨front, level, reads, run, rfl⟩ := exists_level_of_parse parsed
  obtain ⟨back, behind, flattens⟩ := exists_tokens_of_parse further
  obtain ⟨next, joined, joins⟩ := Nesting.exists_joins (flattens.moved first.byteLength)
    (isNormal_of_parse further).separate level
  refine ⟨next.reverse, ?_, joins⟩
  have whole := Token.ofSource_append reads behind apart
  have nested : Nesting.steps {} (Token.splice front (back.map (Token.moved first.byteLength))) =
      .ok ⟨next, []⟩ := by
    rw [Nesting.steps_splice, Nesting.steps_append, run]
    exact joined
  exact parse_of_steps whole nested

theorem parse_block_of_parse {name source : Text} {t : Template} (inverted : Bool)
    (valid : isBindName name = true) (parsed : parse source = .ok t)
    (noBrace : ¬ ['{'] <:+ source) :
    parse (openingTag name inverted ++ source ++ closingTag name) =
      .ok (block name inverted t nil) := by
  obtain ⟨tokens, reads, flattens⟩ := exists_tokens_of_parse parsed
  have moved := Token.scan_moved reads (openingTag name inverted).byteLength
  have opened : Token.ofSource (openingTag name inverted ++ source) =
      .ok (.opening name inverted 0 ::
        tokens.map (Token.moved (openingTag name inverted).byteLength)) := by
    rw [Token.ofSource, Token.scan_tag_append (tagForm_openingTag valid inverted 0), Nat.zero_add]
    rw [Nat.add_zero] at moved
    rw [moved]
    rfl
  have noBraceOpened : ¬ ['{'] <:+ openingTag name inverted ++ source := by
    intro ends
    rcases Text.ends_of_append ends with inSource | ⟨_, inTag⟩
    · exact noBrace inSource
    · exact Text.not_brace_ends_tag _ inTag
  have closed := Token.ofSource_append_tag opened noBraceOpened (tagForm_closingTag valid _)
  have separate : (block name inverted t nil).Separate :=
    ⟨(isNormal_of_parse parsed).separate, trivial⟩
  rw [parse, closed]
  exact ofTokens_of_flattens (.block (flattens.moved _) .nil) separate

/-- Two sources that are templates are one together, unless a brace meets a brace: its nodes are
those of both, with the texts joined that meet, and it is rendered by rendering one after the other,
to the same text or first error and with the same state of all binds at the end. A template is the
body of a block if the tags of the block are written around it. -/
theorem parse_append_joins :
    (∀ {first second : Text} {s t : Template}, parse first = .ok s → parse second = .ok t →
      ¬ (['{'] <:+ first ∧ ['{'] <+: second) →
      ∃ u, parse (first ++ second) = .ok u ∧ Joins s t u ∧
        (∀ {State : Type} (resolve : Resolver State) (state : State),
          u.renderBy resolve state = renderBoth resolve s t state) ∧
        ∀ {Context : Type} (registry : Registry Context) (context : Context),
          u.render registry context =
            match s.render registry context with
            | (.error error, next) => (.error error, next)
            | (.ok front, next) =>
              let (result, last) := t.render next context
              (result.map fun back => front ++ back, last)) ∧
    ∀ {name source : Text} {t : Template} (inverted : Bool), isBindName name = true →
      parse source = .ok t → ¬ ['{'] <:+ source →
      parse (openingTag name inverted ++ source ++ closingTag name) =
        .ok (block name inverted t nil) := by
  constructor
  · intro first second s t parsed further apart
    obtain ⟨u, whole, joins⟩ := exists_joins_of_parse parsed further apart
    refine ⟨u, whole, joins, ?_, ?_⟩
    · intro State resolve state
      exact joins.renderBy_eq resolve state
    · intro Context registry context
      rw [render, joins.renderBy_eq, renderBoth, render]
      rcases s.renderBy (Registry.resolver context) registry with ⟨error | front, next⟩ <;> rfl
  · intro name source t inverted valid parsed noBrace
    exact parse_block_of_parse inverted valid parsed noBrace

/-- A text that ends in a brace before one that starts with a closing brace. -/
theorem parse_append_joins_braces :
    let first := slotTag ['n'] true ++ ['{']
    let second := ['}'] ++ slotTag ['m'] false
    let registry : Registry Unit := Registry.register {} ['n'] (.counting ['n'])
    let body := slot ['n'] true (literal ['{', '}'] (slot ['m'] false nil))
    parse first = .ok (slot ['n'] true (literal ['{'] nil)) ∧
      parse second = .ok (literal ['}'] (slot ['m'] false nil)) ∧
      parse (first ++ second) = .ok body ∧
      (body.render registry ()).1 = .ok ['1', '{', '}'] ∧
      parse (openingTag ['s'] true ++ (first ++ second) ++ closingTag ['s']) =
        .ok (block ['s'] true body nil) := by
  intro first second registry body
  have parsed : parse first = .ok (slot ['n'] true (literal ['{'] nil)) := by decide +kernel
  have further : parse second = .ok (literal ['}'] (slot ['m'] false nil)) := by decide +kernel
  have apart : ¬ (['{'] <:+ first ∧ ['{'] <+: second) := by decide
  have noBrace : ¬ ['{'] <:+ first ++ second := by decide
  obtain ⟨u, whole, joins, _, rendered⟩ := parse_append_joins.1 parsed further apart
  have same : u = body := by
    have read : parse (first ++ second) = .ok body := by decide +kernel
    exact Except.ok.inj (whole.symm.trans read)
  subst same
  refine ⟨parsed, further, whole, ?_, parse_append_joins.2 true rfl whole noBrace⟩
  rw [rendered]
  rfl

end Template

end QueryTemplate
