import QueryTemplate.Proofs.BlockMatching
import QueryTemplate.Proofs.SourceParts

/-! Which part of a source an error blames. Every error points at the start of a tag; all in front
of that tag is divided into tokens, and the tag is of the kind that the error tells. Tags that
cannot be read are found while a source is divided, tags that open or close a block wrongly when
its tokens are nested. -/

set_option autoImplicit false

namespace QueryTemplate

namespace Tag

def openingBraces (raw : Bool) : Text := if raw then '{' :: mark else mark

/-- The tag at the start of a text. It is raw if three braces stand there, and it ends at the first
place behind its opening braces where as many closing ones stand. -/
structure Leads (tag : Tag) (text : Text) : Prop where
  raw_iff : tag.raw = true ↔ '{' :: mark <+: text
  starts : tag.source <+: text
  first : ¬ SyntaxError.closingBraces tag.raw <:+:
    tag.content ++ (SyntaxError.closingBraces tag.raw).dropLast

end Tag

namespace SyntaxError

/-- Why the tag at the start of a text cannot be read. -/
inductive Unreadable (text : Text) : SyntaxError → Prop where
  | unclosed {raw : Bool} {inside : Text} {offset : Nat} :
      (raw = true ↔ '{' :: Tag.mark <+: text) → text = Tag.openingBraces raw ++ inside →
      ¬ closingBraces raw <:+: inside → Unreadable text (.unclosedTag raw offset)
  | inclusion {content part : Text} {offset : Nat} :
      Tag.Leads ⟨false, content⟩ text → Text.trim content = '>' :: part →
      Unreadable text (.partialNotSupported (Text.trim part) offset)
  | invalid {tag : Tag} {offset : Nat} :
      tag.Leads text → Unreadable text (.invalidTag tag.content offset)

/-- What the two parts of a source are like that an error comes between: the part in front of the
tag that it blames, and the part that starts with the tag. -/
inductive Blames (front back : Text) : SyntaxError → Prop where
  | unreadable {error : SyntaxError} : Unreadable back error → Blames front back error
  | leftOpen {name piece : Text} {inverted : Bool} {offset : Nat} :
      (Token.opening name inverted offset).TagForm offset piece → piece <+: back →
      Blames front back (.unmatchedOpenTag name offset)
  | nothingOpen {name piece : Text} {offset : Nat} {t : Template} :
      (Token.closing name offset).TagForm offset piece → piece <+: back →
      Template.parse front = .ok t → Blames front back (.unmatchedCloseTag name none offset)
  | otherOpen {name inner piece : Text} {offset place : Nat} :
      (Token.closing name offset).TagForm offset piece → piece <+: back →
      Template.parse front = .error (.unmatchedOpenTag inner place) →
      Blames front back (.unmatchedCloseTag name (some inner) offset)

end SyntaxError

/-! ## Tags that cannot be read -/

namespace Tag

theorem exists_openingBraces (inside : Text) :
    ∃ raw inner, (raw = true ↔ '{' :: mark <+: mark ++ inside) ∧
      mark ++ inside = openingBraces raw ++ inner ∧
      cut? inside =
        match Text.cut? (SyntaxError.closingBraces raw) inner with
        | some (content, rest) => .ok (⟨raw, content⟩, rest)
        | none => .error raw := by
  obtain ⟨raw, inner, whole, kind, search⟩ := Token.exists_opening inside
  refine ⟨raw, inner, ?_, whole, search⟩
  rw [← kind, ← not_iff_not, ← Text.after?_eq_none_iff, Bool.not_eq_true,
    Option.isSome_eq_false_iff, Option.isNone_iff_eq_none]

theorem closingBraces_ne_nil (raw : Bool) : SyntaxError.closingBraces raw ≠ [] := by
  cases raw <;> simp [SyntaxError.closingBraces]

theorem leads_of_cut?_eq_ok {inside rest : Text} {tag : Tag}
    (found : cut? inside = .ok (tag, rest)) : tag.Leads (mark ++ inside) := by
  obtain ⟨raw, inner, kind, whole, search⟩ := exists_openingBraces inside
  rw [search] at found
  split at found
  · rename_i content behind ended
    cases found
    refine ⟨kind, ⟨rest, ?_⟩, Text.not_infix_of_cut?_eq_some (closingBraces_ne_nil raw) ended⟩
    rw [whole, Text.eq_of_cut?_eq_some ended, source]
    simp [openingBraces]
  · cases found

theorem unclosed_of_cut?_eq_error {inside : Text} {raw : Bool} (offset : Nat)
    (failed : cut? inside = .error raw) :
    SyntaxError.Unreadable (mark ++ inside) (.unclosedTag raw offset) := by
  obtain ⟨kind, inner, isRaw, whole, search⟩ := exists_openingBraces inside
  rw [search] at failed
  split at failed
  · cases failed
  · rename_i endless
    cases failed
    exact .unclosed isRaw whole (Text.cut?_eq_none_iff.mp endless)

theorem unreadable_of_token_eq_error {tag : Tag} {text : Text} {offset : Nat}
    {error : SyntaxError} (leads : tag.Leads text) (failed : tag.token offset = .error error) :
    error.Unreadable text ∧ error.offset = offset := by
  have invalid (part : Text) (make : Text → Token)
      (unnamed : (tag.name? offset part).map make = .error error) :
      error.Unreadable text ∧ error.offset = offset := by
    have cause := error_of_map_eq_error unnamed
    simp only [name?] at cause
    split at cause
    · cases cause
    · cases cause
      exact ⟨.invalid leads, rfl⟩
  obtain ⟨raw, content⟩ := tag
  cases raw with
  | true => exact invalid _ _ failed
  | false =>
    simp only [token, Bool.false_eq_true, if_false] at failed
    split at failed
    · exact invalid _ _ failed
    · exact invalid _ _ failed
    · exact invalid _ _ failed
    · rename_i part signed
      cases failed
      exact ⟨.inclusion leads signed, rfl⟩
    · exact invalid _ _ failed

end Tag

namespace Token

private theorem scan_text_tag_append {offset : Nat} {before piece rest : Text} {token : Token}
    {tokens : List Token} (clear : ¬ Tag.mark <:+: before ++ ['{'])
    (form : token.TagForm (offset + before.byteLength) piece)
    (reads : scan (offset + before.byteLength + piece.byteLength) rest = .ok tokens) :
    scan offset (before ++ (piece ++ rest)) = .ok (ofText before ++ token :: tokens) := by
  have fromTag : scan (offset + before.byteLength) (piece ++ rest) = .ok (token :: tokens) := by
    rw [scan_tag_append form, reads]
    rfl
  by_cases empty : before = []
  · subst empty
    exact fromTag
  · obtain ⟨inside, rfl⟩ := exists_mark_of_tagForm form
    obtain ⟨unmarked, noBrace⟩ := not_mark_infix_append_iff.mp clear
    rw [List.append_assoc] at fromTag ⊢
    rw [scan_text_append offset empty unmarked noBrace, fromTag]
    simp [ofText, empty, Except.map]

/-- Where the tokens of a source end early, the part in front of that place has tokens, and the tag
behind it cannot be read. -/
theorem exists_parts_of_scan_eq_error {offset : Nat} {source : Text} {error : SyntaxError}
    (fails : scan offset source = .error error) :
    ∃ front back tokens, source = front ++ back ∧ error.offset = offset + front.byteLength ∧
      scan offset front = .ok tokens ∧ Tag.mark <+: back ∧ error.Unreadable back := by
  induction length : source.length using Nat.strong_induction_on generalizing offset source with
  | _ bound ih =>
    subst length
    cases found : Text.cut? Tag.mark source with
    | none =>
      rw [scan_of_unmarked offset (Text.cut?_eq_none_iff.mp found)] at fails
      cases fails
    | some parts =>
      obtain ⟨before, inside⟩ := parts
      have clear := Text.not_infix_of_cut?_eq_some (by decide) found
      have whole := Text.eq_of_cut?_eq_some found
      have unmarked := scan_of_unmarked offset (not_mark_infix_append_iff.mp clear).1
      rw [scan_of_cut? offset found] at fails
      have tagFails := error_of_map_eq_error fails
      unfold scanTag at tagFails
      cases closed : Tag.cut? inside with
      | error raw =>
        simp only [closed] at tagFails
        cases tagFails
        exact ⟨before, Tag.mark ++ inside, _, by simp [whole], rfl, unmarked,
          List.prefix_append _ _, Tag.unclosed_of_cut?_eq_error _ closed⟩
      | ok tagged =>
        obtain ⟨tag, rest⟩ := tagged
        simp only [closed] at tagFails
        cases meant : tag.token (offset + before.byteLength) with
        | error raised =>
          simp only [meant] at tagFails
          cases tagFails
          obtain ⟨unreadable, here⟩ :=
            Tag.unreadable_of_token_eq_error (Tag.leads_of_cut?_eq_ok closed) meant
          exact ⟨before, Tag.mark ++ inside, _, by simp [whole], here, unmarked,
            List.prefix_append _ _, unreadable⟩
        | ok token =>
          simp only [meant] at tagFails
          have shorter : rest.length < source.length := by
            have := Text.length_of_cut?_eq_some found
            have := Tag.length_lt_of_cut?_eq_ok closed
            omega
          obtain ⟨front, back, tokens, rfl, place, reads, marked, unreadable⟩ :=
            ih rest.length shorter (error_of_map_eq_error tagFails) rfl
          have form := Tag.tagForm_of_token_eq_ok meant
          refine ⟨before ++ (tag.source ++ front), back, ofText before ++ token :: tokens, ?_, ?_,
            ?_, marked, unreadable⟩
          · rw [whole, Tag.eq_of_cut?_eq_ok closed, tag.source_eq]
            simp
          · rw [place, Text.byteLength_append, Text.byteLength_append]
            omega
          · exact scan_text_tag_append clear form reads

end Token

/-! ## Tags that are nested wrongly -/

namespace Nesting

theorem exists_step_of_steps_eq_error {nesting : Nesting} {tokens : List Token}
    {error : SyntaxError} (rejected : nesting.steps tokens = .error error) :
    ∃ before token after next, tokens = before ++ token :: after ∧
      nesting.steps before = .ok next ∧ next.step token = .error error := by
  induction tokens generalizing nesting with
  | nil => cases rejected
  | cons token tokens ih =>
    simp only [steps] at rejected
    cases stepped : nesting.step token with
    | error raised =>
      rw [stepped] at rejected
      cases rejected
      exact ⟨[], token, tokens, nesting, rfl, rfl, stepped⟩
    | ok following =>
      rw [stepped] at rejected
      obtain ⟨before, last, after, next, rfl, run, failed⟩ := ih rejected
      refine ⟨token :: before, last, after, next, rfl, ?_, failed⟩
      simp only [steps, stepped, run]

theorem enclosing_of_steps {nesting : Nesting} {tokens : List Token}
    (run : steps {} tokens = .ok nesting) :
    Token.enclosing tokens = (nesting.openBlocks.map OpenBlock.tag).reverse := by
  have reads : nesting.Reads (Token.joined tokens) := reads_nil.steps run
  rw [← Token.enclosing_joined, reads.enclosing_eq]

end Nesting

namespace Token

theorem mark_prefix_of_tagForm {offset : Nat} {token : Token} {piece : Text}
    (form : token.TagForm offset piece) : Tag.mark <+: piece := by
  obtain ⟨inside, rfl⟩ := exists_mark_of_tagForm form
  exact List.prefix_append Tag.mark inside

theorem enclosing_sublist (tokens : List Token) : (enclosing tokens).Sublist tokens := by
  induction tokens with
  | nil => exact List.Sublist.slnil
  | cons token tokens ih =>
    rw [enclosing]
    split
    · exact ih.cons_cons token
    · exact ih.cons token

end Token

theorem Nesting.tag_mem_of_steps {nesting : Nesting} {tokens : List Token} {block : OpenBlock}
    (run : steps {} tokens = .ok nesting) (opened : block ∈ nesting.openBlocks) :
    block.tag ∈ tokens := by
  apply (Token.enclosing_sublist tokens).subset
  rw [enclosing_of_steps run, List.mem_reverse]
  exact List.mem_map_of_mem opened

namespace Template

theorem parse_of_steps {source : Text} {tokens : List Token} {nesting : Nesting}
    (reads : Token.ofSource source = .ok tokens) (run : Nesting.steps {} tokens = .ok nesting) :
    parse source = nesting.finish := by
  rw [parse_eq_bind, reads]
  simp only [Except.bind, run]

/-- A tag that closes a block wrongly is blamed for what its source is without it. -/
theorem blames_of_closing {front back piece name : Text} {offset : Nat} {tokens : List Token}
    {nesting : Nesting} {error : SyntaxError} (reads : Token.ofSource front = .ok tokens)
    (run : Nesting.steps {} tokens = .ok nesting)
    (failed : nesting.step (.closing name offset) = .error error)
    (form : (Token.closing name offset).TagForm offset piece) (starts : piece <+: back) :
    error.Blames front back := by
  have parsed := parse_of_steps reads run
  unfold Nesting.finish at parsed
  simp only [Nesting.step] at failed
  split at failed
  · rename_i nothing
    rw [nothing] at parsed
    cases failed
    exact .nothingOpen form starts parsed
  · rename_i block outer opened
    rw [opened] at parsed
    split at failed
    · cases failed
    · cases failed
      exact .otherOpen form starts parsed

/-- An error blames the tag at the place to which it points: all in front of that place is divided
into tokens, and the tag behind it is as the error says. -/
theorem parse_eq_error_blames {source : Text} {error : SyntaxError}
    (failed : parse source = .error error) :
    ∃ front back, source = front ++ back ∧ front.byteLength = error.offset ∧
      Tag.mark <+: back ∧ (∃ tokens, Token.ofSource front = .ok tokens) ∧
      error.Blames front back := by
  rw [parse_eq_bind] at failed
  cases reads : Token.ofSource source with
  | error raised =>
    rw [reads] at failed
    cases failed
    obtain ⟨front, back, tokens, whole, place, inFront, marked, unreadable⟩ :=
      Token.exists_parts_of_scan_eq_error reads
    exact ⟨front, back, whole, by simpa using place.symm, marked, ⟨tokens, inFront⟩,
      .unreadable unreadable⟩
  | ok tokens =>
    rw [reads] at failed
    simp only [Except.bind] at failed
    cases run : Nesting.steps {} tokens with
    | error raised =>
      rw [run] at failed
      cases failed
      obtain ⟨before, token, after, nesting, rfl, inFrontRun, stopped⟩ :=
        Nesting.exists_step_of_steps_eq_error run
      obtain ⟨name, expected, place, rfl, rfl⟩ := Nesting.step_eq_error stopped
      obtain ⟨front, piece, rest, rfl, inFront, form⟩ := Token.exists_part_of_mem reads
      cases form.offset_eq rfl
      cases form with
      | tag form =>
        have starts := List.prefix_append piece rest
        exact ⟨front, piece ++ rest, rfl, rfl, (Token.mark_prefix_of_tagForm form).trans starts,
          ⟨before, inFront⟩, blames_of_closing inFront inFrontRun stopped form starts⟩
    | ok nesting =>
      rw [run] at failed
      simp only [Nesting.finish] at failed
      split at failed
      · cases failed
      · rename_i block outer opened
        cases failed
        obtain ⟨before, after, rfl⟩ := List.append_of_mem (Nesting.tag_mem_of_steps run
          (opened ▸ List.mem_cons_self))
        obtain ⟨front, piece, rest, rfl, inFront, form⟩ := Token.exists_part_of_mem reads
        have place : block.offset = front.byteLength := form.offset_eq rfl
        cases form with
        | tag form =>
          have starts := List.prefix_append piece rest
          exact ⟨front, piece ++ rest, rfl, place.symm,
            (Token.mark_prefix_of_tagForm form).trans starts, ⟨before, inFront⟩,
            .leftOpen (place ▸ form) starts⟩

/-- A block with a text outside of ASCII in it and another block open, closed too early. -/
theorem parse_eq_error_blames_crossed :
    let source := openingTag ['a'] false ++ ['é'] ++ openingTag ['b'] true ++ closingTag ['a']
    let error := SyntaxError.unmatchedCloseTag ['a'] (some ['b']) 14
    parse source = .error error ∧
      ∃ front back, source = front ++ back ∧ front.byteLength = 14 ∧ Tag.mark <+: back ∧
        (∃ tokens, Token.ofSource front = .ok tokens) ∧ error.Blames front back := by
  intro source error
  have failed : parse source = .error error := by decide +kernel
  exact ⟨failed, parse_eq_error_blames failed⟩

end Template

end QueryTemplate
