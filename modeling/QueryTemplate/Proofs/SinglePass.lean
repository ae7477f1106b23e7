import QueryTemplate.Proofs.TokenGrammar
import QueryTemplate.Template.Nesting

/-! Two orders of reading a template. A single pass takes every tag to the open blocks before it
looks for the next one, and so stops at the first violation of any kind. Reading in two phases
divides all of the source into tokens first. Both take the same tokens to the same blocks up to
the first tag that cannot be read; they part only where a block was closed wrongly before it. -/

set_option autoImplicit false

namespace QueryTemplate

namespace Tag

theorem byteLength_source_pos (tag : Tag) : 0 < tag.source.byteLength := by
  rw [tag.source_eq, Text.byteLength_append]
  exact Nat.lt_of_lt_of_le (by decide) (Nat.le_add_right (Text.byteLength mark) _)

/-- A tag that means nothing is blamed at its own place, and for nothing that it would close. -/
theorem offset_of_token_eq_error {tag : Tag} {offset : Nat} {error : SyntaxError}
    (meaningless : tag.token offset = .error error) :
    error.offset = offset ∧
      ∀ name expected place, error ≠ .unmatchedCloseTag name expected place := by
  have named (part : Text) (make : Text → Token)
      (failed : (tag.name? offset part).map make = .error error) :
      error = .invalidTag tag.content offset := by
    have unnamed := error_of_map_eq_error failed
    unfold Tag.name? at unnamed
    dsimp only at unnamed
    split at unnamed
    · cases unnamed
    · cases unnamed
      rfl
  have kinds : error = .invalidTag tag.content offset ∨
      ∃ name, error = .partialNotSupported name offset := by
    unfold Tag.token at meaningless
    split at meaningless
    · exact .inl (named _ _ meaningless)
    · split at meaningless
      · exact .inl (named _ _ meaningless)
      · exact .inl (named _ _ meaningless)
      · exact .inl (named _ _ meaningless)
      · cases meaningless
        exact .inr ⟨_, rfl⟩
      · exact .inl (named _ _ meaningless)
  rcases kinds with rfl | ⟨name, rfl⟩
  · exact ⟨rfl, by simp⟩
  · exact ⟨rfl, by simp⟩

theorem place_of_token_eq_closing {tag : Tag} {offset place : Nat} {name : Text}
    (meant : tag.token offset = .ok (.closing name place)) : place = offset := by
  have form := tagForm_of_token_eq_ok meant
  generalize tag.source = piece at form
  cases form with
  | closing => rfl

end Tag

theorem Token.closing_not_mem_ofText (text name : Text) (place : Nat) :
    .closing name place ∉ Token.ofText text := by
  unfold Token.ofText
  split
  · simp
  · simp

namespace Nesting

theorem steps_append (nesting : Nesting) (front back : List Token) :
    nesting.steps (front ++ back) = (nesting.steps front).bind fun next => next.steps back := by
  induction front generalizing nesting with
  | nil => rfl
  | cons token front ih =>
    simp only [List.cons_append, steps]
    cases nesting.step token with
    | error error => rfl
    | ok next => exact ih next

theorem step_eq_error {nesting : Nesting} {token : Token} {error : SyntaxError}
    (rejected : nesting.step token = .error error) :
    ∃ name expected place, error = .unmatchedCloseTag name expected place ∧
      token = .closing name place := by
  cases token with
  | text text => cases rejected
  | slot name escaped offset => cases rejected
  | opening name inverted offset => cases rejected
  | closing name offset =>
    simp only [step] at rejected
    split at rejected
    · cases rejected
      exact ⟨name, none, offset, rfl, rfl⟩
    · rename_i block outer _
      split at rejected
      · cases rejected
      · cases rejected
        exact ⟨name, some block.name, offset, rfl, rfl⟩

/-- Only a tag that closes a block wrongly stops the steps, and the error blames that tag. -/
theorem steps_eq_error {nesting : Nesting} {tokens : List Token} {error : SyntaxError}
    (rejected : nesting.steps tokens = .error error) :
    ∃ name expected place, error = .unmatchedCloseTag name expected place ∧
      .closing name place ∈ tokens := by
  induction tokens generalizing nesting with
  | nil => cases rejected
  | cons token tokens ih =>
    simp only [steps] at rejected
    split at rejected
    · rename_i raised stepped
      cases rejected
      obtain ⟨name, expected, place, rfl, rfl⟩ := step_eq_error stepped
      exact ⟨name, expected, place, rfl, List.mem_cons_self⟩
    · obtain ⟨name, expected, place, same, member⟩ := ih rejected
      exact ⟨name, expected, place, same, List.mem_cons_of_mem token member⟩

end Nesting

namespace Template

/-- Reads on from an offset, with the blocks that are open there. The text in front of the next tag
and the tag itself are taken before anything behind the tag is looked at. -/
def passFrom (nesting : Nesting) (offset : Nat) (source : Text) : Except SyntaxError Template :=
  match _ : Text.cut? Tag.mark source with
  | none => (nesting.steps (Token.ofText source)).bind Nesting.finish
  | some (before, inside) =>
    match _ : Tag.cut? inside with
    | .error raw => .error (.unclosedTag raw (offset + before.byteLength))
    | .ok (tag, rest) =>
      match tag.token (offset + before.byteLength) with
      | .error error => .error error
      | .ok token =>
        match nesting.steps (Token.ofText before ++ [token]) with
        | .error error => .error error
        | .ok next => passFrom next (offset + before.byteLength + tag.source.byteLength) rest
termination_by source.length
decreasing_by
  have := Text.length_of_cut?_eq_some ‹Text.cut? Tag.mark source = some (before, inside)›
  have := Tag.length_lt_of_cut?_eq_ok ‹Tag.cut? inside = .ok (tag, rest)›
  omega

/-- Reads a template in a single pass, up to the first violation. -/
def singlePass (source : Text) : Except SyntaxError Template := passFrom {} 0 source

theorem passFrom_of_unmarked (nesting : Nesting) (offset : Nat) {source : Text}
    (uncut : Text.cut? Tag.mark source = none) :
    passFrom nesting offset source =
      (nesting.steps (Token.ofText source)).bind Nesting.finish := by
  rw [passFrom]
  split
  · rfl
  · rename_i found
    rw [uncut] at found
    cases found

/-- What the pass does with a source that holds a tag, given what stands behind the first two
braces of it. -/
theorem passFrom_of_cut? (nesting : Nesting) (offset : Nat) {source before inside : Text}
    (found : Text.cut? Tag.mark source = some (before, inside)) :
    passFrom nesting offset source =
      match Tag.cut? inside with
      | .error raw => .error (.unclosedTag raw (offset + before.byteLength))
      | .ok (tag, rest) =>
        (tag.token (offset + before.byteLength)).bind fun token =>
          (nesting.steps (Token.ofText before ++ [token])).bind fun next =>
            passFrom next (offset + before.byteLength + tag.source.byteLength) rest := by
  rw [passFrom]
  split
  · rename_i uncut
    rw [found] at uncut
    cases uncut
  · rename_i before' inside' found'
    rw [found] at found'
    cases found'
    split
    · rename_i raw unclosed
      simp only [unclosed]
    · rename_i tag rest closed
      simp only [closed]
      cases tag.token (offset + before.byteLength) with
      | error error => rfl
      | ok token =>
        simp only [Except.bind]
        cases nesting.steps (Token.ofText before ++ [token]) <;> rfl

private theorem length_lt_of_tag {source before inside rest : Text} {tag : Tag}
    (found : Text.cut? Tag.mark source = some (before, inside))
    (closed : Tag.cut? inside = .ok (tag, rest)) : rest.length < source.length := by
  have := Text.length_of_cut?_eq_some found
  have := Tag.length_lt_of_cut?_eq_ok closed
  omega

/-- One tag of the pass. What the pass does behind the tag it does behind more tokens here. -/
theorem passFrom_of_tag {offset : Nat} {source before inside rest : Text} {tag : Tag}
    {token : Token} {tokens : List Token} {last : Nesting → Except SyntaxError Template}
    (found : Text.cut? Tag.mark source = some (before, inside))
    (closed : Tag.cut? inside = .ok (tag, rest))
    (meant : tag.token (offset + before.byteLength) = .ok token)
    (further : ∀ next, passFrom next (offset + before.byteLength + tag.source.byteLength) rest =
      (next.steps tokens).bind last) (nesting : Nesting) :
    passFrom nesting offset source =
      (nesting.steps (Token.ofText before ++ token :: tokens)).bind last := by
  have shape : Token.ofText before ++ token :: tokens =
      (Token.ofText before ++ [token]) ++ tokens := by simp
  rw [passFrom_of_cut? nesting offset found, closed, shape, Nesting.steps_append]
  simp only [meant, Except.bind]
  cases nesting.steps (Token.ofText before ++ [token]) with
  | error error => rfl
  | ok next => exact further next

/-- A source that is divided into tokens is read in a single pass as its tokens are nested. -/
theorem passFrom_of_scan_eq_ok {offset : Nat} {source : Text} {tokens : List Token}
    (reads : Token.scan offset source = .ok tokens) (nesting : Nesting) :
    passFrom nesting offset source = (nesting.steps tokens).bind Nesting.finish := by
  induction length : source.length using Nat.strong_induction_on
    generalizing nesting offset source tokens with
  | _ bound ih =>
    subst length
    cases found : Text.cut? Tag.mark source with
    | none =>
      rw [Token.scan_of_unmarked offset (Text.cut?_eq_none_iff.mp found)] at reads
      cases reads
      exact passFrom_of_unmarked nesting offset found
    | some parts =>
      obtain ⟨before, inside⟩ := parts
      rw [Token.scan_of_cut? offset found] at reads
      obtain ⟨fromTag, tagged, rfl⟩ := ok_of_map_eq_ok reads
      obtain ⟨tag, rest, token, others, closed, meant, scanned, rfl⟩ :=
        Token.scanTag_eq_ok tagged
      apply passFrom_of_tag found closed meant
      intro next
      exact ih rest.length (length_lt_of_tag found closed) scanned next rfl

/-- Where a source stops being divided, a single pass stops as well, unless one of the tokens in
front of that place has stopped it before. -/
theorem exists_tokens_of_scan_eq_error {offset : Nat} {source : Text} {error : SyntaxError}
    (fails : Token.scan offset source = .error error) :
    (∀ name expected place, error ≠ .unmatchedCloseTag name expected place) ∧
    ∃ tokens : List Token, offset ≤ error.offset ∧
      (∀ name place, .closing name place ∈ tokens → place < error.offset) ∧
      ∀ nesting, passFrom nesting offset source =
        (nesting.steps tokens).bind fun _ => .error error := by
  induction length : source.length using Nat.strong_induction_on
    generalizing offset source with
  | _ bound ih =>
    subst length
    cases found : Text.cut? Tag.mark source with
    | none =>
      rw [Token.scan_of_unmarked offset (Text.cut?_eq_none_iff.mp found)] at fails
      cases fails
    | some parts =>
      obtain ⟨before, inside⟩ := parts
      have pass (nesting : Nesting) := passFrom_of_cut? nesting offset found
      rw [Token.scan_of_cut? offset found] at fails
      have tagFails := error_of_map_eq_error fails
      unfold Token.scanTag at tagFails
      cases closed : Tag.cut? inside with
      | error raw =>
        simp only [closed] at tagFails pass
        cases tagFails
        exact ⟨by simp, [], Nat.le_add_right offset before.byteLength, by simp, pass⟩
      | ok tagged =>
        obtain ⟨tag, rest⟩ := tagged
        simp only [closed] at tagFails pass
        cases meant : tag.token (offset + before.byteLength) with
        | error raised =>
          simp only [meant, Except.bind] at tagFails pass
          cases tagFails
          obtain ⟨here, noClosing⟩ := Tag.offset_of_token_eq_error meant
          exact ⟨noClosing, [], by omega, by simp, pass⟩
        | ok token =>
          simp only [meant] at tagFails
          obtain ⟨noClosing, tokens, behind, earlier, further⟩ := ih rest.length
            (length_lt_of_tag found closed) (error_of_map_eq_error tagFails) rfl
          have positive := tag.byteLength_source_pos
          refine ⟨noClosing, Token.ofText before ++ token :: tokens, by omega, ?_,
            passFrom_of_tag found closed meant further⟩
          intro name place member
          rcases List.mem_append.mp member with inText | inTokens
          · exact absurd inText (Token.closing_not_mem_ofText before name place)
          · rcases List.mem_cons.mp inTokens with rfl | later
            · have here := Tag.place_of_token_eq_closing meant
              omega
            · exact earlier name place later

/-! ## Where the two part -/

theorem parse_eq_bind (source : Text) :
    parse source =
      (Token.ofSource source).bind fun tokens =>
        (Nesting.steps {} tokens).bind Nesting.finish := by
  unfold parse
  cases Token.ofSource source with
  | error error => rfl
  | ok tokens =>
    simp only [ofTokens, Except.bind]
    cases Nesting.steps {} tokens <;> rfl

/-- How the two orders of reading compare, by the phase in which reading in two phases ends. -/
private theorem singlePass_cases (source : Text) :
    (parse source = singlePass source ∧ ¬ ∃ name expected place error,
      singlePass source = .error (.unmatchedCloseTag name expected place) ∧
      Token.ofSource source = .error error) ∨
    ∃ name expected place error,
      singlePass source = .error (.unmatchedCloseTag name expected place) ∧
      Token.ofSource source = .error error ∧ parse source = .error error ∧
      place < error.offset := by
  have double := parse_eq_bind source
  cases reads : Token.ofSource source with
  | ok tokens =>
    rw [reads] at double
    exact .inl ⟨double.trans (passFrom_of_scan_eq_ok reads {}).symm, by simp⟩
  | error error =>
    rw [reads] at double
    obtain ⟨noClosing, tokens, _, earlier, pass⟩ := exists_tokens_of_scan_eq_error reads
    have single : singlePass source = (Nesting.steps {} tokens).bind fun _ => .error error :=
      pass {}
    cases run : Nesting.steps {} tokens with
    | ok nesting =>
      rw [run] at single
      refine .inl ⟨double.trans single.symm, ?_⟩
      intro closed
      obtain ⟨name, expected, place, _, stopped, _⟩ := closed
      rw [single] at stopped
      exact noClosing name expected place (Except.error.inj stopped)
    | error raised =>
      rw [run] at single
      obtain ⟨name, expected, place, rfl, member⟩ := Nesting.steps_eq_error run
      exact .inr ⟨name, expected, place, error, single, rfl, double, earlier name place member⟩

/-- A single pass and reading in two phases accept the same sources as the same templates. They
differ on a source exactly if the pass ends at a tag that closes a block wrongly and the source
cannot be divided into tokens; what is reported instead then stands behind the closing tag. -/
theorem parse_eq_singlePass_iff (source : Text) :
    (∀ t, parse source = .ok t ↔ singlePass source = .ok t) ∧
    (parse source ≠ singlePass source ↔
      ∃ name expected place error,
        singlePass source = .error (.unmatchedCloseTag name expected place) ∧
        Token.ofSource source = .error error) ∧
    (parse source = singlePass source ∨
      ∃ name expected place error,
        singlePass source = .error (.unmatchedCloseTag name expected place) ∧
        parse source = .error error ∧ place < error.offset) := by
  rcases singlePass_cases source with ⟨same, noClosing⟩ |
    ⟨name, expected, place, error, single, undivided, double, behind⟩
  · refine ⟨?_, ?_, .inl same⟩
    · intro t
      rw [same]
    · constructor
      · intro different
        exact absurd same different
      · intro closed
        exact absurd closed noClosing
  · refine ⟨?_, ?_, .inr ⟨name, expected, place, error, single, double, behind⟩⟩
    · intro t
      simp [single, double]
    · constructor
      · intro _
        exact ⟨name, expected, place, error, single, undivided⟩
      · intro _ same
        rw [double, single] at same
        cases same
        exact Nat.lt_irrefl place behind

/-- Closing a block that was never opened, with an unfinished tag behind it. -/
theorem parse_ne_singlePass_unopened :
    singlePass (closingTag ['a'] ++ Tag.mark) = .error (.unmatchedCloseTag ['a'] none 0) ∧
      parse (closingTag ['a'] ++ Tag.mark) = .error (.unclosedTag false 6) ∧
      ¬ ∀ source, parse source = singlePass source := by
  have single : singlePass (closingTag ['a'] ++ Tag.mark) =
      .error (.unmatchedCloseTag ['a'] none 0) := by decide +kernel
  have double : parse (closingTag ['a'] ++ Tag.mark) = .error (.unclosedTag false 6) := by decide +kernel
  refine ⟨single, double, ?_⟩
  intro agree
  have same := agree (closingTag ['a'] ++ Tag.mark)
  rw [single, double] at same
  cases same

end Template

end QueryTemplate
