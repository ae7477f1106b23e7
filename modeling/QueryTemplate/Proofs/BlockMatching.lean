import QueryTemplate.Proofs.FlatReading
import QueryTemplate.Proofs.SinglePass

/-! Which lists of tokens are templates, whether a source has them or not. Blocks are matched like
brackets: a closing tag has to name the innermost block that is open in front of it, and no block
may be open at the end. What a list is read as is the one template that flattens to it, texts that
meet being joined; a list that is refused is refused for its first closing tag that names another
block, or else for the innermost block that is open at its end. -/

set_option autoImplicit false

namespace QueryTemplate

/-! ## Joined texts -/

namespace Token

def isTag : Token → Bool
  | .text _ => false
  | _ => true

theorem filter_isTag_push (tokens : List Token) (token : Token) :
    (push tokens token).filter isTag = (tokens ++ [token]).filter isTag := by
  unfold push
  split
  · rename_i before after ends
    rw [← List.dropLast_append_getLast? _ ends]
    simp [isTag]
  · rfl

theorem filter_isTag_joined (tokens : List Token) :
    (joined tokens).filter isTag = tokens.filter isTag := by
  have behind (front : List Token) :
      (tokens.foldl push front).filter isTag = (front ++ tokens).filter isTag := by
    induction tokens generalizing front with
    | nil => simp
    | cons token tokens ih =>
      rw [List.foldl_cons, ih, List.filter_append, filter_isTag_push, ← List.filter_append,
        List.append_assoc, List.singleton_append]
  exact behind []

theorem countP_filter_isTag {p : Token → Bool} (tags : ∀ token, p token = true → token.isTag = true)
    (tokens : List Token) : (tokens.filter isTag).countP p = tokens.countP p := by
  rw [List.countP_filter]
  apply List.countP_congr
  intro token _
  simp only [Bool.and_eq_true]
  exact ⟨And.left, fun holds => ⟨holds, tags token holds⟩⟩

theorem countP_closesBlock_filter (tokens : List Token) :
    (tokens.filter isTag).countP closesBlock = tokens.countP closesBlock := by
  apply countP_filter_isTag
  intro token closes
  cases token with
  | text text => cases closes
  | _ => rfl

theorem countP_opensBlock_filter (tokens : List Token) :
    (tokens.filter isTag).countP opensBlock = tokens.countP opensBlock := by
  apply countP_filter_isTag
  intro token opens
  cases token with
  | text text => cases opens
  | _ => rfl

theorem closesOwn_filter_isTag (tokens : List Token) :
    ClosesOwn (tokens.filter isTag) ↔ ClosesOwn tokens := by
  simp only [closesOwn_iff]
  constructor
  · intro own part start
    have bounded := own _ (start.filter isTag)
    rwa [countP_closesBlock_filter, countP_opensBlock_filter] at bounded
  · intro own part start
    obtain ⟨whole, wholeStart, rfl⟩ := List.prefix_filter_iff.mp start
    rw [countP_closesBlock_filter, countP_opensBlock_filter]
    exact own whole wholeStart

/-- Texts have no part in how blocks are matched. -/
theorem enclosing_filter_isTag (tokens : List Token) :
    enclosing (tokens.filter isTag) = enclosing tokens := by
  induction tokens with
  | nil => rfl
  | cons token tokens ih =>
    cases token with
    | text text => simpa [isTag, enclosing, opensBlock] using ih
    | _ =>
      rw [List.filter_cons_of_pos rfl]
      simp only [enclosing, closesOwn_filter_isTag, ih]

theorem enclosing_joined (tokens : List Token) : enclosing (joined tokens) = enclosing tokens := by
  rw [← enclosing_filter_isTag (joined tokens), filter_isTag_joined, enclosing_filter_isTag]

theorem isChain_push {tokens : List Token} (apart : tokens.IsChain Apart) (token : Token) :
    (push tokens token).IsChain Apart := by
  unfold push
  split
  · rename_i before after ends
    rw [← List.dropLast_append_getLast? _ ends, List.isChain_append] at apart
    obtain ⟨front, _, meets⟩ := apart
    refine List.isChain_append.mpr ⟨front, List.isChain_singleton _, ?_⟩
    intro last inFront first isFirst earlier later text
    exact absurd rfl (meets last inFront _ rfl earlier before text)
  · rename_i apartFrom
    refine List.isChain_append.mpr ⟨apart, List.isChain_singleton _, ?_⟩
    intro last inFront first isFirst before after text same
    cases isFirst
    subst text
    exact apartFrom before after inFront same

theorem isChain_joined (tokens : List Token) : (joined tokens).IsChain Apart := by
  have behind (front : List Token) (apart : front.IsChain Apart) :
      (tokens.foldl push front).IsChain Apart := by
    induction tokens generalizing front with
    | nil => exact apart
    | cons token tokens ih => exact ih _ (isChain_push apart token)
  exact behind [] List.isChain_nil

end Token

namespace Nesting

theorem pushText_pushText (before after : Text) (level : Template) :
    pushText after (pushText before level) = pushText (before ++ after) level := by
  cases level <;> simp [pushText]

theorem steps_push (nesting : Nesting) (tokens : List Token) (token : Token) :
    nesting.steps (Token.push tokens token) = nesting.steps (tokens ++ [token]) := by
  unfold Token.push
  split
  · rename_i before after ends
    have twice : tokens ++ [.text after] = tokens.dropLast ++ [.text before, .text after] := by
      conv_lhs => rw [← List.dropLast_append_getLast? _ ends]
      simp
    rw [twice, steps_append, steps_append]
    cases nesting.steps tokens.dropLast with
    | error error => rfl
    | ok next => simp [Except.bind, steps, step, pushText_pushText]
  · rfl

theorem steps_joined (nesting : Nesting) (tokens : List Token) :
    nesting.steps (Token.joined tokens) = nesting.steps tokens := by
  have behind (front : List Token) :
      nesting.steps (tokens.foldl Token.push front) = nesting.steps (front ++ tokens) := by
    induction tokens generalizing front with
    | nil => simp
    | cons token tokens ih =>
      rw [List.foldl_cons, ih, steps_append, steps_push, ← steps_append, List.append_assoc,
        List.singleton_append]
  exact behind []

end Nesting

namespace Template

theorem ofTokens_joined (tokens : List Token) : ofTokens (Token.joined tokens) = ofTokens tokens := by
  rw [ofTokens, ofTokens, Nesting.steps_joined]

theorem separate_of_flattens {t : Template} {tokens : List Token} (flattens : t.Flattens tokens)
    (apart : tokens.IsChain Token.Apart) : t.Separate := by
  induction flattens with
  | nil => trivial
  | @literal text rest tokens flattens ih =>
    obtain ⟨meets, apart⟩ := List.isChain_cons.mp apart
    refine ⟨?_, ih apart⟩
    cases flattens with
    | literal => exact absurd rfl (meets _ rfl _ _ rfl)
    | _ => rfl
  | slot _ ih => exact ih apart.tail
  | block _ _ bodyIH ih =>
    exact ⟨bodyIH apart.tail.left_of_append, ih apart.tail.right_of_append.tail⟩

theorem ofTokens_eq_ok_iff (tokens : List Token) (t : Template) :
    ofTokens tokens = .ok t ↔ t.Separate ∧ t.Flattens (Token.joined tokens) := by
  constructor
  · intro formed
    have flattens := flattens_of_ofTokens formed
    exact ⟨separate_of_flattens flattens (Token.isChain_joined tokens), flattens⟩
  · intro whole
    obtain ⟨separate, flattens⟩ := whole
    rw [← ofTokens_joined]
    exact ofTokens_of_flattens flattens separate

end Template

/-! ## Open blocks -/

namespace Token

/-- The block that a tag opens: its name, and where the tag stands. -/
def opened? : Token → Option (Text × Nat)
  | .opening name _ offset => some (name, offset)
  | _ => none

/-- The innermost block that is open behind tokens. -/
def innermost? (tokens : List Token) : Option (Text × Nat) :=
  (enclosing tokens).getLast?.bind opened?

/-- That every closing tag names the innermost block that is open in front of it. -/
def Matched (tokens : List Token) : Prop :=
  ∀ before name offset after, tokens = before ++ .closing name offset :: after →
    (innermost? before).map Prod.fst = some name

theorem matched_nil : Matched [] := by
  intro before name offset after parts
  simp at parts

theorem Matched.of_append {front back : List Token} (matched : Matched (front ++ back)) :
    Matched front := by
  intro before name offset after parts
  apply matched before name offset (after ++ back)
  rw [parts]
  simp

theorem exists_first_unmatched {tokens : List Token} (unmatched : ¬ Matched tokens) :
    ∃ before name offset after, tokens = before ++ .closing name offset :: after ∧
      Matched before ∧ (innermost? before).map Prod.fst ≠ some name := by
  induction tokens using List.reverseRecOn with
  | nil => exact absurd matched_nil unmatched
  | append_singleton tokens token ih =>
    by_cases matched : Matched tokens
    · simp only [Matched, not_forall] at unmatched
      obtain ⟨before, name, offset, after, parts, other⟩ := unmatched
      rcases List.eq_nil_or_concat' after with rfl | ⟨after, last, rfl⟩
      · obtain ⟨rfl, same⟩ := List.append_inj' parts rfl
        cases same
        exact ⟨tokens, name, offset, [], rfl, matched, other⟩
      · rw [← List.cons_append, ← List.append_assoc] at parts
        exact absurd (matched _ _ _ _ (List.append_inj_left' parts rfl)) other
    · obtain ⟨before, name, offset, after, rfl, first, other⟩ := ih matched
      exact ⟨before, name, offset, after ++ [token], by simp, first, other⟩

end Token

namespace OpenBlock

def tag (block : OpenBlock) : Token := .opening block.name block.inverted block.offset

end OpenBlock

namespace Nesting

/-- The blocks that a nesting has open are those around the place that it has come to. -/
theorem Reads.enclosing_eq {nesting : Nesting} {tokens : List Token}
    (reads : nesting.Reads tokens) :
    Token.enclosing tokens = (nesting.openBlocks.map OpenBlock.tag).reverse := by
  induction reads with
  | top flattens => exact Token.enclosing_of_flattens flattens
  | @inside level block outer front inner _ flattens ih =>
    rw [List.append_cons, Token.enclosing_append_flattens flattens,
      Token.enclosing_concat_opening, ih]
    simp [OpenBlock.tag]

theorem innermost?_of_steps {nesting : Nesting} {tokens : List Token}
    (run : steps {} tokens = .ok nesting) :
    Token.innermost? tokens =
      nesting.openBlocks.head?.map fun block => (block.name, block.offset) := by
  have reads : nesting.Reads (Token.joined tokens) := reads_nil.steps run
  rw [Token.innermost?, ← Token.enclosing_joined, reads.enclosing_eq, List.getLast?_reverse]
  cases nesting.openBlocks <;> rfl

theorem step_closing {nesting : Nesting} {tokens : List Token}
    (run : steps {} tokens = .ok nesting) {name : Text} (offset : Nat)
    (other : (Token.innermost? tokens).map Prod.fst ≠ some name) :
    nesting.step (.closing name offset) =
      .error (.unmatchedCloseTag name ((Token.innermost? tokens).map Prod.fst) offset) := by
  rw [innermost?_of_steps run] at other ⊢
  unfold step
  cases opened : nesting.openBlocks with
  | nil => rfl
  | cons block outer =>
    rw [opened] at other
    have different : block.name ≠ name := fun same => other (congrArg some same)
    simp [different]

theorem exists_steps_of_matched {tokens : List Token} (matched : Token.Matched tokens) :
    ∃ nesting, steps {} tokens = .ok nesting := by
  induction tokens using List.reverseRecOn with
  | nil => exact ⟨_, rfl⟩
  | append_singleton tokens token ih =>
    obtain ⟨nesting, run⟩ := ih matched.of_append
    rw [steps_append, run]
    cases token with
    | closing name offset =>
      have closes := matched tokens name offset [] rfl
      rw [innermost?_of_steps run] at closes
      cases opened : nesting.openBlocks with
      | nil =>
        rw [opened] at closes
        cases closes
      | cons block outer =>
        rw [opened] at closes
        have same : block.name = name := Option.some.inj closes
        simp [Except.bind, steps, step, opened, same]
    | _ => exact ⟨_, rfl⟩

end Nesting

namespace Template

/-- What becomes of any list of tokens. It is read as a template exactly if it is the flattening of
that template, with texts that meet joined. If closing tags do not match, the first of them is
blamed together with the block that it should have closed; if they do, and there still is no
template, the innermost block that is open at the end is blamed. -/
theorem ofTokens_outcome (tokens : List Token) :
    (∀ t, ofTokens tokens = .ok t ↔ t.Separate ∧ t.Flattens (Token.joined tokens)) ∧
    (¬ Token.Matched tokens →
      ∃ before name offset after, tokens = before ++ .closing name offset :: after ∧
        Token.Matched before ∧ (Token.innermost? before).map Prod.fst ≠ some name ∧
        ofTokens tokens = .error
          (.unmatchedCloseTag name ((Token.innermost? before).map Prod.fst) offset)) ∧
    (Token.Matched tokens → (∀ t, ofTokens tokens ≠ .ok t) →
      ∃ name offset, Token.innermost? tokens = some (name, offset) ∧
        ofTokens tokens = .error (.unmatchedOpenTag name offset)) := by
  refine ⟨ofTokens_eq_ok_iff tokens, ?_, ?_⟩
  · intro unmatched
    obtain ⟨before, name, offset, after, rfl, first, other⟩ :=
      Token.exists_first_unmatched unmatched
    obtain ⟨nesting, run⟩ := Nesting.exists_steps_of_matched first
    refine ⟨before, name, offset, after, rfl, first, other, ?_⟩
    rw [ofTokens, Nesting.steps_append, run]
    simp only [Except.bind, Nesting.steps, Nesting.step_closing run offset other]
  · intro matched refused
    obtain ⟨nesting, run⟩ := Nesting.exists_steps_of_matched matched
    have outcome : ofTokens tokens = nesting.finish := by rw [ofTokens, run]
    have innermost := Nesting.innermost?_of_steps run
    unfold Nesting.finish at outcome
    cases opened : nesting.openBlocks with
    | nil =>
      rw [opened] at outcome
      exact absurd outcome (refused _)
    | cons block outer =>
      rw [opened] at outcome innermost
      exact ⟨block.name, block.offset, innermost, outcome⟩

/-- Blocks that cross, with an empty text in the outer one. -/
theorem ofTokens_outcome_crossed :
    let tokens : List Token := [.opening ['a'] false 0, .text [], .opening ['b'] true 6,
      .closing ['a'] 12, .closing ['b'] 18]
    ¬ Token.Matched tokens ∧
      ∃ before name offset after, tokens = before ++ .closing name offset :: after ∧
        Token.Matched before ∧ (Token.innermost? before).map Prod.fst ≠ some name ∧
        ofTokens tokens = .error
          (.unmatchedCloseTag name ((Token.innermost? before).map Prod.fst) offset) := by
  intro tokens
  have unmatched : ¬ Token.Matched tokens := by
    intro matched
    have closes := matched [.opening ['a'] false 0, .text [], .opening ['b'] true 6] ['a'] 12 _ rfl
    exact absurd closes (by decide)
  exact ⟨unmatched, (ofTokens_outcome tokens).2.1 unmatched⟩

end Template

end QueryTemplate
