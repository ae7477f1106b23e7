import QueryTemplate.Engine.Statement
import QueryTemplate.Proofs.BlockMatching

/-! Statements without tags. A source in which no tag starts is one text, whatever single braces it
holds; it is passed through unchanged, and nothing is asked for. Every other source that is read has
a slot or a block in it at the outermost level, since the closing tags of a template stand behind
the opening ones. -/

set_option autoImplicit false

namespace QueryTemplate

theorem Token.isTag_of_tagForm {offset : Nat} {token : Token} {piece : Text}
    (form : token.TagForm offset piece) : token.isTag = true := by
  cases form <;> rfl

/-- The start of a tag leads to a tag, if the source is read at all. -/
theorem Token.exists_isTag_of_marked {source : Text} {tokens : List Token}
    (reads : ofSource source = .ok tokens) (marked : Tag.mark <:+: source) :
    ∃ token ∈ tokens, token.isTag = true := by
  cases found : Text.cut? Tag.mark source with
  | none => exact absurd marked (Text.cut?_eq_none_iff.mp found)
  | some parts =>
    obtain ⟨before, inside⟩ := parts
    obtain ⟨fromTag, tagged, rfl⟩ := ok_of_map_eq_ok ((scan_of_cut? 0 found).symm.trans reads)
    obtain ⟨tag, rest, token, others, _, meant, _, rfl⟩ := scanTag_eq_ok tagged
    exact ⟨token, by simp, isTag_of_tagForm (Tag.tagForm_of_token_eq_ok meant)⟩

namespace Template

/-- The template of a text in which no tag starts. -/
def ofText (text : Text) : Template := if text = [] then nil else literal text nil

theorem isLiteral_ofText (text : Text) : (ofText text).isLiteral = true := by
  unfold ofText
  split <;> rfl

theorem parse_of_unmarked {source : Text} (absent : ¬ Tag.mark <:+: source) :
    parse source = .ok (ofText source) := by
  simp only [parse, Token.ofSource, Token.scan_of_unmarked 0 absent, Token.ofText, ofText]
  split <;> rfl

/-- No resolver is asked, whatever it would answer: its state is the one before. -/
theorem renderBy_ofText {State : Type} (resolve : Resolver State) (text : Text) (state : State) :
    (ofText text).renderBy resolve state = (.ok text, state) := by
  unfold ofText
  split
  · rename_i empty
    subst empty
    rfl
  · rfl

theorem Flattens.isTag_eq_false {t : Template} {tokens : List Token} (flattens : t.Flattens tokens)
    (literal : t.isLiteral = true) : ∀ token ∈ tokens, token.isTag = false := by
  induction flattens with
  | nil => simp
  | literal _ ih => exact List.forall_mem_cons.mpr ⟨rfl, ih literal⟩
  | slot _ _ => cases literal
  | block _ _ _ _ => cases literal

theorem unmarked_of_isLiteral {source : Text} {t : Template} (parsed : parse source = .ok t)
    (literal : t.isLiteral = true) : ¬ Tag.mark <:+: source := by
  intro marked
  obtain ⟨tokens, reads, flattens⟩ := exists_tokens_of_parse parsed
  obtain ⟨token, member, isTag⟩ := Token.exists_isTag_of_marked reads marked
  cases isTag.symm.trans (flattens.isTag_eq_false literal token member)

end Template

namespace Statement

/-- A source in which no tag starts makes a statement without templates. It renders to the source,
for every resolver, one that fails for every bind included, and leaves the state of the resolver as
it was, in which any question would show. No other source makes a statement without templates. -/
theorem parse_untagged (name source : Text) :
    (¬ Tag.mark <:+: source →
      ∃ statement, parse name source = .ok statement ∧ statement.hasTemplates = false ∧
        statement.template.isLiteral = true ∧
        (∀ {State : Type} (resolve : Resolver State) (state : State),
          statement.template.renderBy resolve state = (.ok source, state)) ∧
        ∀ {Context : Type} (registry : Registry Context) (context : Context),
          statement.apply registry context = (.ok ⟨name, source⟩, registry)) ∧
      ∀ statement, parse name source = .ok statement → statement.hasTemplates = false →
        statement.template.isLiteral = true ∧ ¬ Tag.mark <:+: source := by
  constructor
  · intro absent
    have literal := Template.isLiteral_ofText source
    refine ⟨⟨name, .ofText source⟩, ?_, ?_, literal, ?_, ?_⟩
    · simp only [parse, Template.parse_of_unmarked absent, ofParsed]
    · simp only [hasTemplates, literal, Bool.not_true]
    · intro State resolve state
      exact Template.renderBy_ofText resolve source state
    · intro Context registry context
      simp only [apply, Template.render, Template.renderBy_ofText]
  · intro statement parsed noTemplates
    have literal : statement.template.isLiteral = true := by simpa [hasTemplates] using noTemplates
    refine ⟨literal, ?_⟩
    unfold parse at parsed
    cases read : Template.parse source with
    | error cause =>
      rw [read] at parsed
      cases parsed
    | ok template =>
      rw [read] at parsed
      cases parsed
      exact Template.unmarked_of_isLiteral read literal

/-- Braces that start no tag, and binds that all fail. -/
theorem parse_untagged_braces :
    let source := "\x7d\x7d \x7b \x7d \x7ba\x7d \x7d\x7d\x7d".toList
    let failing : Resolver Nat := fun name asked =>
      (.error (.incompatibleContext name []), asked + 1)
    ¬ Tag.mark <:+: source ∧ ∃ statement, parse ['s'] source = .ok statement ∧
      statement.hasTemplates = false ∧
      statement.template.renderBy failing 0 = (.ok source, 0) := by
  intro source failing
  have absent : ¬ Tag.mark <:+: source := by decide
  obtain ⟨statement, parsed, noTemplates, _, unasked, _⟩ := (parse_untagged ['s'] source).1 absent
  exact ⟨absent, statement, parsed, noTemplates, unasked failing 0⟩

end Statement

end QueryTemplate
