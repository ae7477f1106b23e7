import Mathlib.Data.List.Chain
import QueryTemplate.Proofs.TagForm

/-! The token lists that sources have, and the sources that token lists have. Reading is a search
for braces; the grammar below cuts a source into one piece for each token and searches for
nothing. Both directions go tag by tag, a text being read together with the tag behind it. -/

set_option autoImplicit false

namespace QueryTemplate

namespace Token

/-- Which token may follow another one. Behind a text there is no other text, and behind one that
ends in a brace there is nothing at all. -/
def Adjoins : Token → Token → Prop
  | .text content, next => (∀ other, next ≠ .text other) ∧ ¬ ['{'] <:+ content
  | _, _ => True

/-- Tokens, and the pieces of a source that they are written as, from an offset on. -/
inductive Writes : Nat → List Token → List Text → Prop where
  | nil {offset : Nat} : Writes offset [] []
  | cons {offset : Nat} {token : Token} {piece : Text} {tokens : List Token}
      {pieces : List Text} :
      token.Form offset piece → (∀ next ∈ tokens.head?, token.Adjoins next) →
      Writes (offset + piece.byteLength) tokens pieces →
      Writes offset (token :: tokens) (piece :: pieces)

theorem Writes.isChain {offset : Nat} {tokens : List Token} {pieces : List Text}
    (writes : Writes offset tokens pieces) : tokens.IsChain Adjoins := by
  induction writes with
  | nil => exact .nil
  | cons _ adjoins _ ih => exact List.isChain_cons.mpr ⟨adjoins, ih⟩

theorem Writes.form_of_mem {offset : Nat} {tokens : List Token} {pieces : List Text}
    (writes : Writes offset tokens pieces) {token : Token} (member : token ∈ tokens) :
    ∃ place piece, token.Form place piece := by
  induction writes with
  | nil => cases member
  | cons form _ _ ih =>
    rcases List.mem_cons.mp member with rfl | member
    · exact ⟨_, _, form⟩
    · exact ih member

theorem adjoins_of_tagForm {offset : Nat} {token : Token} {piece : Text}
    (form : token.TagForm offset piece) (next : Token) : token.Adjoins next := by
  cases form <;> trivial

/-! ## Steps of the scan -/

/-- The tokens of a source that starts with a tag, given what stands behind the first two braces
of it. -/
def scanTag (offset : Nat) (inside : Text) : Except SyntaxError (List Token) :=
  match Tag.cut? inside with
  | .error raw => .error (.unclosedTag raw offset)
  | .ok (tag, rest) =>
    match tag.token offset with
    | .error error => .error error
    | .ok token => (scan (offset + tag.source.byteLength) rest).map (token :: ·)

theorem scanTag_eq_ok {offset : Nat} {inside : Text} {tokens : List Token}
    (reads : scanTag offset inside = .ok tokens) :
    ∃ tag rest token others, Tag.cut? inside = .ok (tag, rest) ∧ tag.token offset = .ok token ∧
      scan (offset + tag.source.byteLength) rest = .ok others ∧ tokens = token :: others := by
  unfold scanTag at reads
  split at reads
  · cases reads
  · rename_i tag rest closed
    split at reads
    · cases reads
    · rename_i token meant
      obtain ⟨others, scanned, rfl⟩ := ok_of_map_eq_ok reads
      exact ⟨tag, rest, token, others, closed, meant, scanned, rfl⟩

theorem scan_of_unmarked {source : Text} (offset : Nat) (absent : ¬ Tag.mark <:+: source) :
    scan offset source = .ok (ofText source) := by
  have uncut : Text.cut? Tag.mark source = none := Text.cut?_eq_none_iff.mpr absent
  rw [scan]
  split
  · rfl
  · rename_i found
    rw [uncut] at found
    cases found

/-- The first step of the scan: a text, which may be empty, and then a tag. -/
theorem scan_of_cut? {source before inside : Text} (offset : Nat)
    (found : Text.cut? Tag.mark source = some (before, inside)) :
    scan offset source =
      (scanTag (offset + before.byteLength) inside).map (ofText before ++ ·) := by
  rw [scan]
  split
  · rename_i uncut
    rw [found] at uncut
    cases uncut
  · rename_i before' inside' found'
    rw [found] at found'
    cases found'
    unfold scanTag
    dsimp only
    split
    · rename_i raw unclosed
      simp only [unclosed]
      rfl
    · rename_i tag rest closed
      simp only [closed]
      cases meant : tag.token (offset + before.byteLength) with
      | error error => rfl
      | ok token =>
        simp only
        cases scan (offset + before.byteLength + tag.source.byteLength) rest <;> rfl

theorem scan_mark_append (offset : Nat) (inside : Text) :
    scan offset (Tag.mark ++ inside) = scanTag offset inside := by
  have found : Text.cut? Tag.mark (Tag.mark ++ inside) = some ([], inside) := by
    rw [Text.cut?_eq_some_iff (by decide)]
    exact ⟨rfl, by decide⟩
  rw [scan_of_cut? offset found]
  cases reads : scanTag (offset + Text.byteLength []) inside <;> exact reads.symm

/-- Neither the mark nor the start of one at the end. -/
theorem not_mark_infix_append_iff {content : Text} :
    ¬ Tag.mark <:+: content ++ ['{'] ↔ ¬ Tag.mark <:+: content ∧ ¬ ['{'] <:+ content := by
  have atEnd : Tag.mark <:+ content ++ ['{'] ↔ ['{'] <:+ content := by
    constructor
    · rintro ⟨front, equal⟩
      have shape : (front ++ ['{']) ++ ['{'] = content ++ ['{'] := by
        simpa [Tag.mark] using equal
      exact ⟨front, List.append_cancel_right shape⟩
    · rintro ⟨front, rfl⟩
      exact ⟨front, by simp [Tag.mark]⟩
  rw [List.infix_concat_iff, atEnd, not_or, and_comm]

/-- A text in front of a tag is read by itself. -/
theorem scan_text_append (offset : Nat) {content inside : Text} (nonempty : content ≠ [])
    (clear : ¬ Tag.mark <:+: content) (noBrace : ¬ ['{'] <:+ content) :
    scan offset (content ++ (Tag.mark ++ inside)) =
      (scan (offset + content.byteLength) (Tag.mark ++ inside)).map (.text content :: ·) := by
  have found : Text.cut? Tag.mark (content ++ (Tag.mark ++ inside)) = some (content, inside) := by
    rw [Text.cut?_eq_some_iff (by decide)]
    exact ⟨by simp, not_mark_infix_append_iff.mpr ⟨clear, noBrace⟩⟩
  rw [scan_of_cut? offset found, scan_mark_append]
  simp [ofText, nonempty]

theorem scan_tag_append {offset : Nat} {token : Token} {piece : Text}
    (form : token.TagForm offset piece) (rest : Text) :
    scan offset (piece ++ rest) =
      (scan (offset + piece.byteLength) rest).map (token :: ·) := by
  obtain ⟨tag, rfl, delimited, meant⟩ := Tag.exists_tag_of_tagForm form
  rw [Tag.source_eq, List.append_assoc, scan_mark_append, scanTag,
    Tag.cut?_inside_append delimited, ← Tag.source_eq]
  simp only [meant]

/-! ## Both directions -/

theorem exists_mark_of_tagForm {offset : Nat} {token : Token} {piece : Text}
    (form : token.TagForm offset piece) : ∃ inside, piece = Tag.mark ++ inside := by
  obtain ⟨tag, rfl, _, _⟩ := Tag.exists_tag_of_tagForm form
  exact ⟨tag.inside, tag.source_eq⟩

theorem scan_flatten {offset : Nat} {tokens : List Token} {pieces : List Text}
    (writes : Writes offset tokens pieces) : scan offset pieces.flatten = .ok tokens := by
  induction writes with
  | @nil offset => rw [List.flatten_nil, scan_of_unmarked offset (by decide)]; rfl
  | @cons offset token piece tokens pieces form adjoins writes ih =>
    rw [List.flatten_cons]
    cases form with
    | tag form =>
      rw [scan_tag_append form, ih]
      rfl
    | text nonempty clear =>
      cases writes with
      | nil =>
        rw [List.flatten_nil, List.append_nil, scan_of_unmarked offset clear]
        simp [ofText, nonempty]
      | @cons _ next nextPiece _ _ nextForm _ _ =>
        obtain ⟨notText, noBrace⟩ := adjoins next rfl
        cases nextForm with
        | text => exact absurd rfl (notText _)
        | tag nextForm =>
          obtain ⟨inside, rfl⟩ := exists_mark_of_tagForm nextForm
          rw [List.flatten_cons, List.append_assoc] at ih ⊢
          rw [scan_text_append offset nonempty clear noBrace, ih]
          rfl

/-- A text in front of pieces that start with a tag is a piece itself, if it is one at all. -/
private theorem writes_ofText {offset : Nat} {content : Text} {token : Token} {piece : Text}
    {tokens : List Token} {pieces : List Text} (clear : ¬ Tag.mark <:+: content ++ ['{'])
    (form : token.TagForm (offset + content.byteLength) piece)
    (writes : Writes (offset + content.byteLength) (token :: tokens) (piece :: pieces)) :
    ∃ front : List Text, front.flatten = content ∧
      Writes offset (ofText content ++ token :: tokens) (front ++ piece :: pieces) := by
  by_cases empty : content = []
  · subst empty
    exact ⟨[], rfl, by simpa [ofText] using writes⟩
  · have adjoins : (Token.text content).Adjoins token := by
      refine ⟨?_, (not_mark_infix_append_iff.mp clear).2⟩
      rintro other rfl
      cases form
    refine ⟨[content], by simp, ?_⟩
    simp only [ofText, empty, if_false, List.cons_append, List.nil_append]
    refine .cons (.text empty (not_mark_infix_append_iff.mp clear).1) ?_ writes
    rintro next ⟨⟩
    exact adjoins

theorem exists_pieces_of_scan {offset : Nat} {source : Text} {tokens : List Token}
    (reads : scan offset source = .ok tokens) :
    ∃ pieces, Writes offset tokens pieces ∧ pieces.flatten = source := by
  induction length : source.length using Nat.strong_induction_on
    generalizing offset source tokens with
  | _ bound ih =>
    subst length
    cases found : Text.cut? Tag.mark source with
    | none =>
      have clear := Text.cut?_eq_none_iff.mp found
      rw [scan_of_unmarked offset clear] at reads
      cases reads
      by_cases empty : source = []
      · subst empty
        exact ⟨[], .nil, rfl⟩
      · refine ⟨[source], ?_, by simp⟩
        simp only [ofText, empty, if_false]
        exact .cons (.text empty clear) (by simp) .nil
    | some parts =>
      obtain ⟨before, inside⟩ := parts
      have clear : ¬ Tag.mark <:+: before ++ ['{'] :=
        Text.not_infix_of_cut?_eq_some (by decide) found
      have whole := Text.eq_of_cut?_eq_some found
      rw [scan_of_cut? offset found] at reads
      obtain ⟨fromTag, tagged, rfl⟩ := ok_of_map_eq_ok reads
      obtain ⟨tag, rest, token, others, closed, meant, scanned, rfl⟩ := scanTag_eq_ok tagged
      have form := Tag.tagForm_of_token_eq_ok meant
      have shorter : rest.length < source.length := by
        have := Text.length_of_cut?_eq_some found
        have := Tag.length_lt_of_cut?_eq_ok closed
        omega
      obtain ⟨pieces, writes, rfl⟩ := ih rest.length shorter scanned rfl
      obtain ⟨front, joined, written⟩ := writes_ofText clear form
        (.cons (.tag form) (fun next _ => adjoins_of_tagForm form next) writes)
      refine ⟨front ++ tag.source :: pieces, written, ?_⟩
      rw [List.flatten_append, joined, List.flatten_cons, whole, Tag.eq_of_cut?_eq_ok closed,
        tag.source_eq]
      simp

end Token

end QueryTemplate
