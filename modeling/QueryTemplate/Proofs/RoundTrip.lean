import QueryTemplate.Proofs.Flattening
import QueryTemplate.Proofs.TokenGrammar

/-! The templates that sources have. A template can be built by hand from texts that no source
would give it: an empty one, two in a row, one with braces in it. Those that are read from some
source are characterized here, level by level, and are read back from the source that is written
for them. -/

set_option autoImplicit false

namespace QueryTemplate

namespace Template

/-- The levels of templates that are read, inside of a block or outside of all. A text can end in
a brace only at the end of a source, where no tag comes behind it. -/
inductive NormalLevel : Bool → Template → Prop where
  | nil {inBlock : Bool} : NormalLevel inBlock nil
  | literal {inBlock : Bool} {text : Text} {rest : Template} :
      text ≠ [] → ¬ Tag.mark <:+: text → rest.startsWithLiteral = false →
      (rest ≠ nil ∨ inBlock = true → ¬ ['{'] <:+ text) →
      NormalLevel inBlock rest → NormalLevel inBlock (literal text rest)
  | slot {inBlock escaped : Bool} {name : Text} {rest : Template} :
      isBindName name = true → NormalLevel inBlock rest →
      NormalLevel inBlock (slot name escaped rest)
  | block {inBlock inverted : Bool} {name : Text} {body rest : Template} :
      isBindName name = true → NormalLevel true body → NormalLevel inBlock rest →
      NormalLevel inBlock (block name inverted body rest)

def IsNormal (t : Template) : Prop := NormalLevel false t

theorem NormalLevel.separate {inBlock : Bool} {t : Template} (normal : NormalLevel inBlock t) :
    t.Separate := by
  induction normal with
  | nil => trivial
  | literal _ _ notLiteral _ _ ih => exact ⟨notLiteral, ih⟩
  | slot _ _ ih => exact ih
  | block _ _ _ bodyIH ih => exact ⟨bodyIH, ih⟩

/-! ## Reading what was written -/

theorem tagForm_slotTag {name : Text} (valid : isBindName name = true) (escaped : Bool)
    (offset : Nat) : (Token.slot name escaped offset).TagForm offset (slotTag name escaped) := by
  cases escaped with
  | true =>
    have form : (Token.slot name true offset).TagForm offset _ :=
      .slot valid Text.allBlank_nil Text.allBlank_nil
    simpa [slotTag] using form
  | false =>
    have form : (Token.slot name false offset).TagForm offset _ :=
      .rawSlot valid Text.allBlank_nil Text.allBlank_nil
    simpa [slotTag] using form

theorem tagForm_openingTag {name : Text} (valid : isBindName name = true) (inverted : Bool)
    (offset : Nat) :
    (Token.opening name inverted offset).TagForm offset (openingTag name inverted) := by
  have form : (Token.opening name inverted offset).TagForm offset _ :=
    .opening valid Text.allBlank_nil Text.allBlank_nil Text.allBlank_nil
  simpa [openingTag, openingSign] using form

theorem tagForm_closingTag {name : Text} (valid : isBindName name = true) (offset : Nat) :
    (Token.closing name offset).TagForm offset (closingTag name) := by
  have form : (Token.closing name offset).TagForm offset _ :=
    .closing valid Text.allBlank_nil Text.allBlank_nil Text.allBlank_nil
  simpa [closingTag] using form

/-- What may stand behind a level: the tag that ends its block, or nothing. -/
def EndsLevel (inBlock : Bool) (tail : Text) : Prop :=
  if inBlock then ∃ inside, tail = Tag.mark ++ inside else tail = []

/-- Behind a text, the source goes on with a tag or is at its end. -/
private theorem sourceBefore_start {inBlock : Bool} {rest : Template} {tail : Text}
    (notLiteral : rest.startsWithLiteral = false) (ends : EndsLevel inBlock tail) :
    (rest = nil ∧ inBlock = false ∧ rest.sourceBefore tail = []) ∨
      ((rest ≠ nil ∨ inBlock = true) ∧ ∃ inside, rest.sourceBefore tail = Tag.mark ++ inside) := by
  cases rest with
  | nil =>
    cases inBlock with
    | false => exact .inl ⟨rfl, rfl, ends⟩
    | true => exact .inr ⟨.inr rfl, ends⟩
  | literal text rest => cases notLiteral
  | slot name escaped rest =>
    refine .inr ⟨.inl (by simp), ?_⟩
    cases escaped <;> exact ⟨_, rfl⟩
  | block name inverted body rest => exact .inr ⟨.inl (by simp), _, rfl⟩

/-- The source of a normal level is divided into its tokens, whatever stands behind the level. -/
theorem exists_tokens_of_normal {inBlock : Bool} {t : Template} (normal : NormalLevel inBlock t)
    {tail : Text} (ends : EndsLevel inBlock tail) (offset : Nat) :
    ∃ tokens next, t.Flattens tokens ∧
      Token.scan offset (t.sourceBefore tail) = (Token.scan next tail).map (tokens ++ ·) := by
  induction normal generalizing tail offset with
  | nil =>
    refine ⟨[], offset, .nil, ?_⟩
    rw [sourceBefore]
    cases Token.scan offset tail <;> rfl
  | @literal inBlock text rest nonempty clear notLiteral noBrace _ ih =>
    rcases sourceBefore_start notLiteral ends with ⟨rfl, rfl, nothing⟩ | ⟨followed, inside, tagged⟩
    · have atEnd : tail = [] := ends
      subst atEnd
      refine ⟨[.text text], 0, .literal .nil, ?_⟩
      rw [sourceBefore, nothing, List.append_nil, Token.scan_of_unmarked offset clear,
        Token.scan_of_unmarked 0 (by decide)]
      simp [Token.ofText, nonempty, Except.map]
    · obtain ⟨tokens, next, flattens, reads⟩ := ih ends (offset + text.byteLength)
      refine ⟨.text text :: tokens, next, .literal flattens, ?_⟩
      rw [sourceBefore, tagged, Token.scan_text_append offset nonempty clear (noBrace followed),
        ← tagged, reads]
      cases Token.scan next tail <;> rfl
  | @slot inBlock escaped name rest valid _ ih =>
    obtain ⟨tokens, next, flattens, reads⟩ :=
      ih ends (offset + (slotTag name escaped).byteLength)
    refine ⟨.slot name escaped offset :: tokens, next, .slot flattens, ?_⟩
    rw [sourceBefore, Token.scan_tag_append (tagForm_slotTag valid escaped offset), reads]
    cases Token.scan next tail <;> rfl
  | @block inBlock inverted name body rest valid _ _ bodyIH ih =>
    have closes : EndsLevel true (closingTag name ++ rest.sourceBefore tail) := ⟨_, rfl⟩
    obtain ⟨inner, closed, bodyFlattens, bodyReads⟩ :=
      bodyIH closes (offset + (openingTag name inverted).byteLength)
    obtain ⟨tokens, next, flattens, reads⟩ :=
      ih ends (closed + (closingTag name).byteLength)
    refine ⟨.opening name inverted offset :: (inner ++ .closing name closed :: tokens), next,
      .block bodyFlattens flattens, ?_⟩
    rw [sourceBefore, Token.scan_tag_append (tagForm_openingTag valid inverted offset), bodyReads,
      Token.scan_tag_append (tagForm_closingTag valid closed), reads]
    cases Token.scan next tail with
    | error error => rfl
    | ok others => simp [Except.map]

theorem IsNormal.parse_toSource {t : Template} (normal : t.IsNormal) :
    parse t.toSource = .ok t := by
  obtain ⟨tokens, next, flattens, reads⟩ := exists_tokens_of_normal normal rfl 0
  rw [Token.scan_of_unmarked next (by decide)] at reads
  have read : Token.ofSource t.toSource = .ok tokens := by
    rw [Token.ofSource, toSource, reads]
    simp [Token.ofText, Except.map]
  rw [parse, read]
  exact ofTokens_of_flattens flattens normal.separate

/-! ## Normality of what was read -/

private theorem tokens_ne_nil {t : Template} {tokens : List Token} (flattens : t.Flattens tokens)
    (nonempty : t ≠ nil) : tokens ≠ [] := by
  cases flattens with
  | nil => exact absurd rfl nonempty
  | _ => simp

private theorem isBindName_of_slot {offset place : Nat} {name piece : Text} {escaped : Bool}
    (form : (Token.slot name escaped place).Form offset piece) : isBindName name = true := by
  cases form with
  | tag form =>
    cases form with
    | slot valid => exact valid
    | rawSlot valid => exact valid

theorem isBindName_of_opening {offset place : Nat} {name piece : Text} {inverted : Bool}
    (form : (Token.opening name inverted place).Form offset piece) : isBindName name = true := by
  cases form with
  | tag form =>
    cases form with
    | opening valid => exact valid

/-- A level is normal if its tokens, those behind it included, could stand in a source. -/
private theorem normalLevel_of_flattens {t : Template} {tokens : List Token}
    (flattens : t.Flattens tokens) (following : List Token)
    (written : ∀ token ∈ tokens, ∃ offset piece, token.Form offset piece)
    (chain : (tokens ++ following).IsChain Token.Adjoins) :
    NormalLevel (!following.isEmpty) t := by
  induction flattens generalizing following with
  | nil => exact .nil
  | @literal text rest tokens flattens ih =>
    obtain ⟨offset, piece, form⟩ := written _ List.mem_cons_self
    obtain ⟨adjoins, restChain⟩ := List.isChain_cons.mp chain
    have restNormal := ih following
      (fun token member => written token (List.mem_cons_of_mem _ member)) restChain
    have notLiteral : rest.startsWithLiteral = false := by
      cases flattens with
      | literal => exact absurd rfl ((adjoins _ rfl).1 _)
      | _ => rfl
    have noBrace : rest ≠ nil ∨ (!following.isEmpty) = true → ¬ ['{'] <:+ text := by
      intro followed
      have remains : tokens ++ following ≠ [] := by
        rcases followed with nonempty | nonempty
        · simp [tokens_ne_nil flattens nonempty]
        · simpa using fun _ => nonempty
      exact (adjoins _ (List.head_mem_head? remains)).2
    cases form with
    | text nonempty clear => exact .literal nonempty clear notLiteral noBrace restNormal
    | tag form => cases form
  | @slot name escaped offset rest tokens _ ih =>
    obtain ⟨_, _, form⟩ := written _ List.mem_cons_self
    exact .slot (isBindName_of_slot form) (ih following
      (fun token member => written token (List.mem_cons_of_mem _ member)) chain.tail)
  | @block name inverted opened closed body rest inner tokens _ _ bodyIH ih =>
    obtain ⟨_, _, form⟩ := written _ List.mem_cons_self
    rw [List.cons_append, List.append_assoc, List.cons_append] at chain
    have bodyNormal := bodyIH (.closing name closed :: (tokens ++ following))
      (fun token member => written token (by simp [member])) chain.tail
    exact .block (isBindName_of_opening form) bodyNormal (ih following
      (fun token member => written token (by simp [member])) chain.tail.right_of_append.tail)

theorem isNormal_of_parse {source : Text} {t : Template} (parsed : parse source = .ok t) :
    t.IsNormal := by
  unfold parse at parsed
  split at parsed
  · cases parsed
  · rename_i tokens reads
    obtain ⟨pieces, writes, _⟩ := Token.exists_pieces_of_scan reads
    have chain := writes.isChain
    have apart : tokens.IsChain Token.Apart := by
      refine chain.imp ?_
      rintro first second adjoins before after rfl
      exact adjoins.1 after
    have flattens := flattens_of_ofTokens parsed
    rw [Token.joined_of_isChain apart] at flattens
    exact normalLevel_of_flattens flattens [] (fun token => writes.form_of_mem)
      (by rwa [List.append_nil])

/-- A template is the reading of some source if and only if it is normal, and if and only if it is
read back from the source that is written for it. Writing what was read and reading it again
changes nothing, whatever the source. -/
theorem parse_toSource_iff (t : Template) (source : Text) :
    ((∃ origin, parse origin = .ok t) ↔ t.IsNormal) ∧
    (t.IsNormal ↔ parse t.toSource = .ok t) ∧
    ((parse source).bind fun read => parse read.toSource) = parse source := by
  refine ⟨?_, ?_, ?_⟩
  · constructor
    · rintro ⟨origin, parsed⟩
      exact isNormal_of_parse parsed
    · intro normal
      exact ⟨t.toSource, normal.parse_toSource⟩
  · exact ⟨IsNormal.parse_toSource, isNormal_of_parse⟩
  · cases parsed : parse source with
    | error error => rfl
    | ok read => exact (isNormal_of_parse parsed).parse_toSource

end Template

end QueryTemplate
