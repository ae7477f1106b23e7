import Mathlib.Logic.Function.Iterate
import QueryTemplate.Proofs.BlamedTags

/-! Closing what was left open. A source that ends inside of blocks is repaired by adding the tag
that closes the block which its error names. Each repair closes one block, the innermost, so that
as many repairs as there are open blocks lead to a template, and the blocks that are blamed on the
way stand further and further in front. -/

set_option autoImplicit false

namespace QueryTemplate

namespace Token

/-- The blocks that are open behind tokens, by their names and offsets, the innermost first. -/
def leftOpen (tokens : List Token) : List (Text × Nat) :=
  ((enclosing tokens).filterMap opened?).reverse

/-- The tags that close blocks, written without blanks from an offset on. -/
def closings (offset : Nat) : List Text → List Token
  | [] => []
  | name :: names =>
    .closing name offset :: closings (offset + (Template.closingTag name).byteLength) names

end Token

namespace Template

/-- A source with the tag added that closes the innermost block left open in it. -/
def repaired (source : Text) : Text :=
  match parse source with
  | .error (.unmatchedOpenTag name _) => source ++ closingTag name
  | _ => source

end Template

/-! ## Open blocks of a nesting -/

namespace Nesting

theorem leftOpen_of_steps {nesting : Nesting} {tokens : List Token}
    (run : steps {} tokens = .ok nesting) :
    Token.leftOpen tokens = nesting.openBlocks.map fun block => (block.name, block.offset) := by
  rw [Token.leftOpen, enclosing_of_steps run, ← List.map_reverse, List.filterMap_map]
  have opened : Token.opened? ∘ OpenBlock.tag =
      some ∘ fun block : OpenBlock => (block.name, block.offset) := rfl
  rw [opened, List.filterMap_eq_map, List.map_reverse, List.reverse_reverse]

theorem length_openBlocks_of_steps {nesting last : Nesting} {tokens : List Token}
    (run : nesting.steps tokens = .ok last) :
    last.openBlocks.length + tokens.countP Token.closesBlock =
      nesting.openBlocks.length + tokens.countP Token.opensBlock := by
  induction tokens generalizing nesting with
  | nil =>
    cases run
    rfl
  | cons token tokens ih =>
    simp only [steps] at run
    cases stepped : nesting.step token with
    | error raised =>
      rw [stepped] at run
      cases run
    | ok next =>
      rw [stepped] at run
      have counted := ih run
      rw [List.countP_cons, List.countP_cons]
      cases token with
      | text text =>
        cases stepped
        simpa [Token.closesBlock, Token.opensBlock] using counted
      | slot name escaped offset =>
        cases stepped
        simpa [Token.closesBlock, Token.opensBlock] using counted
      | opening name inverted offset =>
        cases stepped
        simp only [List.length_cons] at counted
        simp only [Token.closesBlock, Token.opensBlock, Bool.false_eq_true, if_false, if_true]
        omega
      | closing name offset =>
        simp only [step] at stepped
        split at stepped
        · cases stepped
        · rename_i block outer opened
          split at stepped
          · cases stepped
            simp only at counted
            simp only [opened, Token.closesBlock, Token.opensBlock, Bool.false_eq_true, if_false,
              if_true, List.length_cons]
            omega
          · cases stepped

end Nesting

namespace Token

theorem offsets_leftOpen_decrease {source : Text} {tokens : List Token}
    (reads : ofSource source = .ok tokens) :
    (leftOpen tokens).Pairwise fun inner outer => outer.2 < inner.2 := by
  obtain ⟨pieces, written, _⟩ := exists_pieces_of_scan reads
  have ordered := written.offsets_increase.sublist (enclosing_sublist tokens)
  rw [leftOpen, List.pairwise_reverse, List.pairwise_filterMap]
  refine ordered.imp ?_
  intro earlier later increase block opened further openedLater
  have stands {token : Token} {block : Text × Nat} (opened : token.opened? = some block) :
      block.2 ∈ token.offset? := by
    cases token with
    | opening name inverted offset =>
      cases opened
      rfl
    | _ => cases opened
  exact increase _ (stands opened) _ (stands openedLater)

end Token

/-! ## Repairs -/

namespace Template

/-- What a repair can start from: the tokens of a source, how they nest, and that no brace is at
the end, where it would meet an added tag. -/
structure Leaves (source : Text) (tokens : List Token) (nesting : Nesting) : Prop where
  reads : Token.ofSource source = .ok tokens
  run : Nesting.steps {} tokens = .ok nesting
  noBrace : ¬ ['{'] <:+ source

theorem exists_leaves_of_parse {source name : Text} {offset : Nat}
    (failed : parse source = .error (.unmatchedOpenTag name offset))
    (noBrace : ¬ ['{'] <:+ source) :
    ∃ tokens level block outer, Leaves source tokens ⟨level, block :: outer⟩ ∧
      block.name = name ∧ block.offset = offset := by
  cases reads : Token.ofSource source with
  | error raised =>
    rw [parse_eq_bind, reads] at failed
    cases failed
    obtain ⟨_, _, _, _, _, _, _, unreadable⟩ := Token.exists_parts_of_scan_eq_error reads
    cases unreadable
  | ok tokens =>
    cases run : Nesting.steps {} tokens with
    | error raised =>
      obtain ⟨_, _, _, rfl, _⟩ := Nesting.steps_eq_error run
      simp only [parse_eq_bind, reads, Except.bind, run] at failed
      cases failed
    | ok nesting =>
      rw [parse_of_steps reads run] at failed
      obtain ⟨level, openBlocks⟩ := nesting
      cases openBlocks with
      | nil => cases failed
      | cons block outer =>
        cases failed
        exact ⟨tokens, level, block, outer, ⟨reads, run, noBrace⟩, rfl, rfl⟩

namespace Leaves

variable {source : Text} {tokens : List Token} {level : Template}

theorem parse_eq_error {block : OpenBlock} {outer : List OpenBlock}
    (leaves : Leaves source tokens ⟨level, block :: outer⟩) :
    parse source = .error (.unmatchedOpenTag block.name block.offset) :=
  parse_of_steps leaves.reads leaves.run

theorem repaired_eq {block : OpenBlock} {outer : List OpenBlock}
    (leaves : Leaves source tokens ⟨level, block :: outer⟩) :
    repaired source = source ++ closingTag block.name := by
  rw [repaired, leaves.parse_eq_error]

/-- One repair closes the innermost block and leaves the others open. -/
theorem repair {block : OpenBlock} {outer : List OpenBlock}
    (leaves : Leaves source tokens ⟨level, block :: outer⟩) :
    ∃ next, Leaves (repaired source) (tokens ++ [.closing block.name source.byteLength])
      ⟨next, outer⟩ := by
  have valid : isBindName block.name = true := by
    obtain ⟨pieces, written, _⟩ := Token.exists_pieces_of_scan leaves.reads
    obtain ⟨_, _, form⟩ := written.form_of_mem
      (Nesting.tag_mem_of_steps leaves.run List.mem_cons_self)
    exact isBindName_of_opening form
  rw [leaves.repaired_eq]
  refine ⟨.block block.name block.inverted level.reverse block.before, ?_, ?_, ?_⟩
  · exact Token.ofSource_append_tag leaves.reads leaves.noBrace (tagForm_closingTag valid _)
  · rw [Nesting.steps_append, leaves.run]
    simp only [Except.bind, Nesting.steps, Nesting.step, if_true]
  · intro ends
    rcases Text.ends_of_append ends with inTag | ⟨nothing, _⟩
    · exact Text.not_brace_ends_tag _ inTag
    · cases nothing

/-- Repairing again and again closes all blocks, from the innermost to the outermost. -/
theorem iterate_repair {openBlocks : List OpenBlock}
    (leaves : Leaves source tokens ⟨level, openBlocks⟩) :
    (∀ steps block, openBlocks[steps]? = some block →
      parse (repaired^[steps] source) =
        .error (.unmatchedOpenTag block.name block.offset)) ∧
    ∃ last, Leaves (repaired^[openBlocks.length] source)
      (tokens ++ Token.closings source.byteLength (openBlocks.map (·.name))) ⟨last, []⟩ := by
  induction openBlocks generalizing source tokens level with
  | nil => exact ⟨by simp, level, by simpa [Token.closings] using leaves⟩
  | cons block outer ih =>
    obtain ⟨next, further⟩ := leaves.repair
    obtain ⟨blamed, last, settled⟩ := ih further
    have added : (repaired source).byteLength =
        source.byteLength + (closingTag block.name).byteLength := by
      rw [leaves.repaired_eq, Text.byteLength_append]
    refine ⟨?_, last, ?_⟩
    · intro steps inner isInner
      cases steps with
      | zero =>
        cases isInner
        exact leaves.parse_eq_error
      | succ steps =>
        rw [Function.iterate_succ_apply]
        exact blamed steps inner isInner
    · rw [List.length_cons, Function.iterate_succ_apply, List.map_cons, Token.closings, ← added]
      simpa using settled

end Leaves

/-- The tag that an error asks for closes the innermost block; if any is open behind it, that block
stands further in front. As many repairs as there are blocks left open give a template, whose tokens
are those of the source and the tags that were added. -/
theorem parse_iterate_repaired {source name : Text} {offset : Nat}
    (failed : parse source = .error (.unmatchedOpenTag name offset))
    (noBrace : ¬ ['{'] <:+ source) :
    ((∃ t, parse (source ++ closingTag name) = .ok t) ∨
      ∃ outer place, parse (source ++ closingTag name) = .error (.unmatchedOpenTag outer place) ∧
        place < offset) ∧
    ∃ tokens t, Token.ofSource source = .ok tokens ∧
      let stillOpen := Token.leftOpen tokens
      stillOpen.length + tokens.countP Token.closesBlock = tokens.countP Token.opensBlock ∧
      stillOpen.Pairwise (fun inner outer => outer.2 < inner.2) ∧
      (∀ steps block, stillOpen[steps]? = some block →
        parse (repaired^[steps] source) = .error (.unmatchedOpenTag block.1 block.2)) ∧
      parse (repaired^[stillOpen.length] source) = .ok t ∧
      Token.ofSource (repaired^[stillOpen.length] source) =
        .ok (tokens ++ Token.closings source.byteLength (stillOpen.map Prod.fst)) ∧
      t.Flattens (tokens ++ Token.closings source.byteLength (stillOpen.map Prod.fst)) := by
  obtain ⟨tokens, level, block, outer, leaves, rfl, rfl⟩ := exists_leaves_of_parse failed noBrace
  have opened := Nesting.leftOpen_of_steps leaves.run
  have ordered := Token.offsets_leftOpen_decrease leaves.reads
  have counted := Nesting.length_openBlocks_of_steps leaves.run
  obtain ⟨blamed, last, settled⟩ := leaves.iterate_repair
  constructor
  · obtain ⟨next, further⟩ := leaves.repair
    rw [leaves.repaired_eq] at further
    cases outer with
    | nil => exact .inl ⟨_, parse_of_steps further.reads further.run⟩
    | cons second outer =>
      refine .inr ⟨second.name, second.offset, further.parse_eq_error, ?_⟩
      rw [opened] at ordered
      exact (List.pairwise_cons.mp ordered).1 _ List.mem_cons_self
  · have parsed : parse (repaired^[(block :: outer).length] source) = .ok last.reverse :=
      parse_of_steps settled.reads settled.run
    obtain ⟨read, reads, flattens⟩ := exists_tokens_of_parse parsed
    cases settled.reads.symm.trans reads
    refine ⟨tokens, last.reverse, leaves.reads, ?_⟩
    simp only [opened, List.length_map, List.map_map, Function.comp_def]
    rw [opened] at ordered
    refine ⟨by simpa using counted, ordered, ?_, parsed, settled.reads, flattens⟩
    intro steps opening isOpening
    rw [List.getElem?_map, Option.map_eq_some_iff] at isOpening
    obtain ⟨inner, isInner, rfl⟩ := isOpening
    exact blamed steps inner isInner

/-- Three blocks left open, the two outer ones of one name. -/
theorem parse_iterate_repaired_nested :
    let source := openingTag ['a'] false ++ openingTag ['a'] true ++ ['x'] ++ openingTag ['b'] false
    parse source = .error (.unmatchedOpenTag ['b'] 13) ∧ ¬ ['{'] <:+ source ∧
      ((∃ t, parse (source ++ closingTag ['b']) = .ok t) ∨
        ∃ outer place, parse (source ++ closingTag ['b']) =
          .error (.unmatchedOpenTag outer place) ∧ place < 13) ∧
      ∃ t, parse (repaired^[3] source) = .ok t := by
  intro source
  have failed : parse source = .error (.unmatchedOpenTag ['b'] 13) := by decide +kernel
  have noBrace : ¬ ['{'] <:+ source := by decide
  obtain ⟨once, tokens, t, reads, _, _, _, parsed, _, _⟩ := parse_iterate_repaired failed noBrace
  have three : (Token.ofSource source).map (fun tokens => (Token.leftOpen tokens).length) =
      .ok 3 := by
    decide +kernel
  rw [reads] at three
  exact ⟨failed, noBrace, once, t, Except.ok.inj three ▸ parsed⟩

end Template

end QueryTemplate
