import Mathlib.Data.List.Chain
import QueryTemplate.Template.Nesting

/-! Templates and flat lists of tokens. A template is flattened by writing its tags where its
blocks begin and end; nesting undoes that. What a nesting has read so far is a flat list as well,
in which texts that met are joined, and every step adds its token to that list. -/

set_option autoImplicit false

namespace QueryTemplate

namespace Template

/-! ## Levels in reverse -/

theorem reverseOnto_eq (t other : Template) : t.reverseOnto other = t.reverse ++ other := by
  induction t generalizing other with
  | nil => rfl
  | literal text rest ih =>
    simp only [reverse, reverseOnto]
    rw [ih (literal text other), ih (literal text nil), append_assoc]
    rfl
  | slot name escaped rest ih =>
    simp only [reverse, reverseOnto]
    rw [ih (slot name escaped other), ih (slot name escaped nil), append_assoc]
    rfl
  | block name inverted body rest _ ih =>
    simp only [reverse, reverseOnto]
    rw [ih (block name inverted body other), ih (block name inverted body nil), append_assoc]
    rfl

theorem reverse_literal (text : Text) (rest : Template) :
    (literal text rest).reverse = rest.reverse ++ literal text nil :=
  rest.reverseOnto_eq _

theorem reverse_slot (name : Text) (escaped : Bool) (rest : Template) :
    (slot name escaped rest).reverse = rest.reverse ++ slot name escaped nil :=
  rest.reverseOnto_eq _

theorem reverse_block (name : Text) (inverted : Bool) (body rest : Template) :
    (block name inverted body rest).reverse = rest.reverse ++ block name inverted body nil :=
  rest.reverseOnto_eq _

theorem reverseOnto_reverseOnto (t other last : Template) :
    (t.reverseOnto other).reverseOnto last = other.reverseOnto (t ++ last) := by
  induction t generalizing other with
  | nil => rfl
  | literal text rest ih => exact ih (literal text other)
  | slot name escaped rest ih => exact ih (slot name escaped other)
  | block name inverted body rest _ ih => exact ih (block name inverted body other)

theorem reverse_reverse (t : Template) : t.reverse.reverse = t := by
  have twice := reverseOnto_reverseOnto t nil nil
  rw [append_nil] at twice
  exact twice

/-! ## Flat lists -/

/-- The tokens of a template, at whatever offsets they stand. -/
inductive Flattens : Template → List Token → Prop where
  | nil : Flattens nil []
  | literal {text : Text} {rest : Template} {tokens : List Token} :
      Flattens rest tokens → Flattens (literal text rest) (.text text :: tokens)
  | slot {name : Text} {escaped : Bool} {offset : Nat} {rest : Template} {tokens : List Token} :
      Flattens rest tokens →
      Flattens (slot name escaped rest) (.slot name escaped offset :: tokens)
  | block {name : Text} {inverted : Bool} {opened closed : Nat} {body rest : Template}
      {inner tokens : List Token} :
      Flattens body inner → Flattens rest tokens →
      Flattens (block name inverted body rest)
        (.opening name inverted opened :: (inner ++ .closing name closed :: tokens))

theorem Flattens.append {s t : Template} {front back : List Token} (first : s.Flattens front)
    (second : t.Flattens back) : (s ++ t).Flattens (front ++ back) := by
  induction first with
  | nil => exact second
  | literal _ ih => exact .literal ih
  | slot _ ih => exact .slot ih
  | @block name inverted opened closed body rest inner tokens bodyFlattens _ _ ih =>
    rw [block_append, List.cons_append, List.append_assoc, List.cons_append]
    exact .block bodyFlattens ih

theorem Flattens.of_append {s t : Template} {tokens : List Token}
    (flattens : (s ++ t).Flattens tokens) :
    ∃ front back, s.Flattens front ∧ t.Flattens back ∧ tokens = front ++ back := by
  induction s generalizing tokens with
  | nil => exact ⟨[], tokens, .nil, flattens, rfl⟩
  | literal text rest ih =>
    cases flattens with
    | literal flattens =>
      obtain ⟨front, back, first, second, rfl⟩ := ih flattens
      exact ⟨_, back, .literal first, second, rfl⟩
  | slot name escaped rest ih =>
    cases flattens with
    | slot flattens =>
      obtain ⟨front, back, first, second, rfl⟩ := ih flattens
      exact ⟨_, back, .slot first, second, rfl⟩
  | block name inverted body rest _ ih =>
    cases flattens with
    | @block _ _ opened closed _ _ inner _ bodyFlattens flattens =>
      obtain ⟨front, back, first, second, rfl⟩ := ih flattens
      exact ⟨.opening name inverted opened :: (inner ++ .closing name closed :: front), back,
        .block bodyFlattens first, second, by simp⟩

def startsWithLiteral : Template → Bool
  | literal _ _ => true
  | _ => false

/-- No text follows another one, at any level. -/
def Separate : Template → Prop
  | nil => True
  | literal _ rest => rest.startsWithLiteral = false ∧ rest.Separate
  | slot _ _ rest => rest.Separate
  | block _ _ body rest => body.Separate ∧ rest.Separate

end Template

namespace Nesting

theorem pushText_eq {level : Template} (notLiteral : level.startsWithLiteral = false)
    (text : Text) : pushText text level = .literal text level := by
  cases level with
  | literal before rest => cases notLiteral
  | _ => rfl

/-- Tokens of a template are read as the nodes of the template, on whatever level. -/
theorem steps_flattens_append {t : Template} {tokens : List Token} (flattens : t.Flattens tokens)
    (separate : t.Separate) (level : Template)
    (apart : t.startsWithLiteral = true → level.startsWithLiteral = false)
    (openBlocks : List OpenBlock) (more : List Token) :
    steps ⟨level, openBlocks⟩ (tokens ++ more) =
      steps ⟨t.reverseOnto level, openBlocks⟩ more := by
  induction flattens generalizing level openBlocks more with
  | nil => rfl
  | @literal text rest tokens _ ih =>
    have pushed := pushText_eq (apart rfl) text
    have next : ¬ rest.startsWithLiteral = true := by simp [separate.1]
    simp only [List.cons_append, steps, step, pushed]
    exact ih separate.2 _ (fun starts => absurd starts next) openBlocks more
  | slot _ ih => exact ih separate _ (fun _ => rfl) openBlocks more
  | @block name inverted opened closed body rest inner tokens _ _ bodyIH ih =>
    have inBody := bodyIH separate.1 .nil (fun _ => rfl)
      (⟨name, inverted, opened, level⟩ :: openBlocks) (.closing name closed :: (tokens ++ more))
    have shape : .opening name inverted opened :: (inner ++ .closing name closed :: tokens) ++ more
        = .opening name inverted opened :: (inner ++ .closing name closed :: (tokens ++ more)) := by
      simp
    rw [shape, steps]
    simp only [step]
    rw [inBody, steps]
    have restored : (body.reverseOnto .nil).reverse = body := body.reverse_reverse
    simp only [step, if_true, restored]
    exact ih separate.2 _ (fun _ => rfl) openBlocks more

end Nesting

/-! ## What a nesting has read -/

namespace Token

/-- One more token at the end of a list. Texts that meet are joined. -/
def push (tokens : List Token) (token : Token) : List Token :=
  match tokens.getLast?, token with
  | some (.text before), .text after => tokens.dropLast ++ [.text (before ++ after)]
  | _, _ => tokens ++ [token]

theorem push_append_text (front : List Token) (before after : Text) :
    push (front ++ [.text before]) (.text after) = front ++ [.text (before ++ after)] := by
  simp [push]

theorem push_eq_append {tokens : List Token} {token : Token}
    (apart : ∀ before after, tokens.getLast? = some (.text before) → token ≠ .text after) :
    push tokens token = tokens ++ [token] := by
  unfold push
  split
  · rename_i before after ends
    exact absurd rfl (apart before after ends)
  · rfl

end Token

namespace Nesting

/-- The tokens that have been read into a nesting. In front of its innermost level stand those of
the levels around it, each followed by the tag that opened a block in it. -/
inductive Reads : Nesting → List Token → Prop where
  | top {level : Template} {tokens : List Token} :
      level.reverse.Flattens tokens → Reads ⟨level, []⟩ tokens
  | inside {level : Template} {block : OpenBlock} {outer : List OpenBlock}
      {front inner : List Token} :
      Reads ⟨block.before, outer⟩ front → level.reverse.Flattens inner →
      Reads ⟨level, block :: outer⟩
        (front ++ .opening block.name block.inverted block.offset :: inner)

theorem reads_nil : Reads {} [] := .top Template.Flattens.nil

/-- The innermost level can be exchanged, and no text in front of it can meet one in it. -/
theorem Reads.exists_level {level : Template} {openBlocks : List OpenBlock}
    {tokens : List Token} (reads : Reads ⟨level, openBlocks⟩ tokens) :
    ∃ front inner, tokens = front ++ inner ∧ level.reverse.Flattens inner ∧
      (∀ text, front.getLast? ≠ some (.text text)) ∧
      ∀ (other : Template) (others : List Token), other.reverse.Flattens others →
        Reads ⟨other, openBlocks⟩ (front ++ others) := by
  cases reads with
  | top flattens => exact ⟨[], tokens, rfl, flattens, by simp, fun _ _ => .top⟩
  | @inside _ block outer front inner outerReads flattens =>
    refine ⟨front ++ [.opening block.name block.inverted block.offset], inner, by simp, flattens,
      by simp, ?_⟩
    intro other others otherFlattens
    rw [List.append_assoc]
    exact .inside outerReads otherFlattens

theorem Reads.append_node {level other node : Template} {openBlocks : List OpenBlock}
    {tokens added : List Token} (reads : Reads ⟨level, openBlocks⟩ tokens)
    (extended : other.reverse = level.reverse ++ node) (flattens : node.Flattens added) :
    Reads ⟨other, openBlocks⟩ (tokens ++ added) := by
  obtain ⟨front, inner, rfl, levelFlattens, _, exchange⟩ := reads.exists_level
  rw [List.append_assoc]
  apply exchange
  rw [extended]
  exact levelFlattens.append flattens

private theorem flattens_reverse_literal {text : Text} {rest : Template} {tokens : List Token}
    (flattens : (Template.literal text rest).reverse.Flattens tokens) :
    ∃ front, rest.reverse.Flattens front ∧ tokens = front ++ [.text text] := by
  rw [Template.reverse_literal] at flattens
  obtain ⟨front, back, first, second, rfl⟩ := flattens.of_append
  cases second with
  | literal nothing =>
    cases nothing
    exact ⟨front, first, rfl⟩

private theorem getLast?_ne_text {level : Template} {tokens : List Token}
    (flattens : level.reverse.Flattens tokens) (notLiteral : level.startsWithLiteral = false)
    (text : Text) : tokens.getLast? ≠ some (.text text) := by
  cases level with
  | nil =>
    cases flattens
    simp
  | literal before rest => cases notLiteral
  | slot name escaped rest =>
    rw [Template.reverse_slot] at flattens
    obtain ⟨front, back, _, second, rfl⟩ := flattens.of_append
    cases second with
    | slot nothing => cases nothing; simp
  | block name inverted body rest =>
    rw [Template.reverse_block] at flattens
    obtain ⟨front, back, _, second, rfl⟩ := flattens.of_append
    cases second with
    | block _ nothing =>
      cases nothing
      rw [← List.cons_append, ← List.append_assoc, List.getLast?_concat]
      simp

theorem Reads.pushText {level : Template} {openBlocks : List OpenBlock} {tokens : List Token}
    (reads : Reads ⟨level, openBlocks⟩ tokens) (text : Text) :
    Reads ⟨Nesting.pushText text level, openBlocks⟩ (Token.push tokens (.text text)) := by
  cases starts : level.startsWithLiteral with
  | true =>
    obtain ⟨before, rest, rfl⟩ : ∃ before rest, level = .literal before rest := by
      cases level with
      | literal before rest => exact ⟨before, rest, rfl⟩
      | _ => cases starts
    obtain ⟨front, inner, rfl, flattens, _, exchange⟩ := reads.exists_level
    obtain ⟨earlier, earlierFlattens, rfl⟩ := flattens_reverse_literal flattens
    rw [← List.append_assoc, Token.push_append_text, List.append_assoc]
    apply exchange
    rw [Nesting.pushText, Template.reverse_literal]
    exact earlierFlattens.append (.literal .nil)
  | false =>
    obtain ⟨front, inner, rfl, flattens, outside, _⟩ := reads.exists_level
    have apart : ∀ before after, (front ++ inner).getLast? = some (.text before) →
        Token.text text ≠ .text after := by
      intro before after ends
      cases inner with
      | nil => exact absurd (by simpa using ends) (outside before)
      | cons head inner =>
        rw [List.getLast?_append_of_ne_nil front (by simp)] at ends
        exact absurd ends (getLast?_ne_text flattens starts before)
    rw [Token.push_eq_append apart, pushText_eq starts]
    exact reads.append_node (Template.reverse_literal text level) (.literal .nil)

theorem Reads.step {nesting next : Nesting} {tokens : List Token} {token : Token}
    (reads : nesting.Reads tokens) (stepped : nesting.step token = .ok next) :
    next.Reads (Token.push tokens token) := by
  obtain ⟨level, openBlocks⟩ := nesting
  cases token with
  | text text =>
    cases stepped
    exact reads.pushText text
  | slot name escaped offset =>
    cases stepped
    rw [Token.push_eq_append (by simp)]
    exact reads.append_node (Template.reverse_slot name escaped level) (.slot .nil)
  | opening name inverted offset =>
    cases stepped
    rw [Token.push_eq_append (by simp)]
    exact .inside reads .nil
  | closing name offset =>
    rw [Token.push_eq_append (by simp)]
    cases reads with
    | top => cases stepped
    | @inside _ block outer front inner outerReads flattens =>
      simp only [Nesting.step] at stepped
      split at stepped
      · rename_i same
        cases stepped
        have closed : Reads ⟨.block block.name block.inverted level.reverse block.before, outer⟩
            (front ++ .opening block.name block.inverted block.offset ::
              (inner ++ [.closing block.name offset])) :=
          outerReads.append_node
            (Template.reverse_block block.name block.inverted level.reverse block.before)
            (.block flattens .nil)
        simpa [same] using closed
      · cases stepped

theorem Reads.steps {nesting last : Nesting} {front tokens : List Token}
    (reads : nesting.Reads front) (run : nesting.steps tokens = .ok last) :
    last.Reads (tokens.foldl Token.push front) := by
  induction tokens generalizing nesting front with
  | nil =>
    cases run
    exact reads
  | cons token tokens ih =>
    simp only [Nesting.steps] at run
    split at run
    · cases run
    · rename_i next stepped
      exact ih (reads.step stepped) run

end Nesting

namespace Token

/-- Runs of texts joined to one text each. -/
def joined (tokens : List Token) : List Token := tokens.foldl push []

def Apart (first second : Token) : Prop :=
  ∀ before after, first = .text before → second ≠ .text after

private theorem foldl_push_of_isChain (front tokens : List Token)
    (apart : (front ++ tokens).IsChain Apart) : tokens.foldl push front = front ++ tokens := by
  induction tokens generalizing front with
  | nil => exact (List.append_nil front).symm
  | cons token tokens ih =>
    have meets : ∀ before after, front.getLast? = some (.text before) → token ≠ .text after := by
      intro before after ends
      exact (List.isChain_append.mp apart).2.2 _ ends token rfl before after rfl
    rw [List.foldl_cons, push_eq_append meets, ih, List.append_assoc]
    · rfl
    · rwa [List.append_assoc]

theorem joined_of_isChain {tokens : List Token} (apart : tokens.IsChain Apart) :
    joined tokens = tokens :=
  foldl_push_of_isChain [] tokens apart

end Token

theorem Template.flattens_of_ofTokens {t : Template} {tokens : List Token}
    (formed : ofTokens tokens = .ok t) : t.Flattens (Token.joined tokens) := by
  unfold ofTokens at formed
  split at formed
  · cases formed
  · rename_i nesting run
    have reads : nesting.Reads (Token.joined tokens) := Nesting.reads_nil.steps run
    unfold Nesting.finish at formed
    split at formed
    · rename_i closed
      cases formed
      obtain ⟨level, openBlocks⟩ := nesting
      cases closed
      cases reads with
      | top flattens => exact flattens
    · cases formed

theorem Template.ofTokens_of_flattens {t : Template} {tokens : List Token}
    (flattens : t.Flattens tokens) (separate : t.Separate) : ofTokens tokens = .ok t := by
  have read := Nesting.steps_flattens_append flattens separate .nil (fun _ => rfl) [] []
  rw [List.append_nil] at read
  rw [ofTokens, read]
  exact congrArg Except.ok t.reverse_reverse

end QueryTemplate
