import QueryTemplate.Proofs.TextSearch
import QueryTemplate.Template.Token

/-! The written forms of tokens, and reading one tag. A form is given by what is written, not by
how it is searched for: blanks may stand around the sign of a tag and around its name. -/

set_option autoImplicit false

namespace QueryTemplate

/-! ## Names -/

/-- The characters of bind names, wherever in a name they may stand. -/
def IsNameChar (c : Char) : Prop := c.isAlphanum = true ∨ c ∈ ['_', '.', ':', '-']

theorem isNameChar_of_isBindName {name : Text} (valid : isBindName name = true) {c : Char}
    (member : c ∈ name) : IsNameChar c := by
  cases name with
  | nil => cases member
  | cons first rest =>
    simp only [isBindName, Bool.and_eq_true, Bool.or_eq_true, List.all_eq_true, beq_iff_eq]
      at valid
    obtain ⟨start, others⟩ := valid
    rcases List.mem_cons.mp member with rfl | member
    · rcases start with letter | underscore
      · exact .inl (by simp [Char.isAlphanum, letter])
      · exact .inr (by simp [underscore])
    · rcases others c member with (((letter | same) | same) | same) | same
      · exact .inl letter
      all_goals exact .inr (by simp [same])

theorem IsNameChar.isBlank_eq_false {c : Char} (nameChar : IsNameChar c) :
    Text.isBlank c = false := by
  rcases nameChar with letter | member
  · delta Char.isAlphanum Char.isAlpha Char.isUpper Char.isLower Char.isDigit at letter
    simp only [Bool.or_eq_true, Bool.and_eq_true, decide_eq_true_eq, ge_iff_le,
      UInt32.le_iff_toNat_le] at letter
    have code : c.toNat = c.val.toNat := rfl
    simp only [Text.isBlank, Text.blankRanges, Text.CodeRanges.contains, code]
    grind
  · simp only [List.mem_cons, List.not_mem_nil, or_false] at member
    rcases member with rfl | rfl | rfl | rfl <;> rfl

theorem IsNameChar.ne_brace {c : Char} (nameChar : IsNameChar c) : c ≠ '{' ∧ c ≠ '}' := by
  constructor
  all_goals
    rintro rfl
    rcases nameChar with letter | member
    · exact absurd letter (by decide)
    · simp at member

theorem trim_name {before name after : Text} (valid : isBindName name = true)
    (blankBefore : Text.AllBlank before) (blankAfter : Text.AllBlank after) :
    Text.trim (before ++ name ++ after) = name := by
  apply Text.trim_append blankBefore blankAfter
  · intro c first
    exact (isNameChar_of_isBindName valid (List.mem_of_head? first)).isBlank_eq_false
  · intro c last
    exact (isNameChar_of_isBindName valid (List.mem_of_getLast? last)).isBlank_eq_false

theorem ne_nil_of_isBindName {name : Text} (valid : isBindName name = true) : name ≠ [] := by
  rintro rfl
  cases valid

/-! ## Forms -/

def openingSign (inverted : Bool) : Char := if inverted then '^' else '#'

/-- The ways to write the tag of a token that stands at an offset. -/
inductive Token.TagForm (offset : Nat) : Token → Text → Prop where
  | slot {name before after : Text} : isBindName name = true →
      Text.AllBlank before → Text.AllBlank after →
      TagForm offset (.slot name true offset)
        (['{', '{'] ++ before ++ name ++ after ++ ['}', '}'])
  | rawSlot {name before after : Text} : isBindName name = true →
      Text.AllBlank before → Text.AllBlank after →
      TagForm offset (.slot name false offset)
        (['{', '{', '{'] ++ before ++ name ++ after ++ ['}', '}', '}'])
  | opening {name outer before after : Text} {inverted : Bool} : isBindName name = true →
      Text.AllBlank outer → Text.AllBlank before → Text.AllBlank after →
      TagForm offset (.opening name inverted offset)
        (['{', '{'] ++ outer ++ [openingSign inverted] ++ before ++ name ++ after ++ ['}', '}'])
  | closing {name outer before after : Text} : isBindName name = true →
      Text.AllBlank outer → Text.AllBlank before → Text.AllBlank after →
      TagForm offset (.closing name offset)
        (['{', '{'] ++ outer ++ ['/'] ++ before ++ name ++ after ++ ['}', '}'])

/-- The ways to write a token that stands at an offset. A text is written as it is. -/
inductive Token.Form (offset : Nat) : Token → Text → Prop where
  | text {text : Text} : text ≠ [] → ¬ Tag.mark <:+: text → Form offset (.text text) text
  | tag {token : Token} {piece : Text} : TagForm offset token piece → Form offset token piece

/-! ## Reading a tag -/

theorem ok_of_map_eq_ok {Error Value Result : Type} {f : Value → Result}
    {outcome : Except Error Value} {result : Result} (mapped : outcome.map f = .ok result) :
    ∃ value, outcome = .ok value ∧ f value = result := by
  cases outcome with
  | error error => cases mapped
  | ok value => cases mapped; exact ⟨value, rfl, rfl⟩

theorem error_of_map_eq_error {Error Value Result : Type} {f : Value → Result}
    {outcome : Except Error Value} {error : Error} (mapped : outcome.map f = .error error) :
    outcome = .error error := by
  cases outcome with
  | error raised => cases mapped; rfl
  | ok value => cases mapped

namespace Tag

def inside (tag : Tag) : Text :=
  (if tag.raw then ['{'] else []) ++ tag.content ++ SyntaxError.closingBraces tag.raw

theorem source_eq (tag : Tag) : tag.source = mark ++ tag.inside := by
  unfold source inside
  cases tag.raw <;> simp [mark]

/-- A tag loses nothing of the source from which it was read. -/
theorem eq_of_cut?_eq_ok {text rest : Text} {tag : Tag} (found : cut? text = .ok (tag, rest)) :
    text = tag.inside ++ rest := by
  unfold cut? at found
  split at found
  rename_i raw inner start
  split at found
  · rename_i content remaining ended
    cases found
    have whole := Text.eq_of_cut?_eq_some ended
    split at start
    · cases start
      simp [inside, whole]
    · cases start
      simp [inside, whole]
  · cases found

/-- What the content of a tag has to avoid so that the tag is read back as it was written. -/
structure Delimited (tag : Tag) : Prop where
  noBrace : '}' ∉ tag.content
  notRaw : tag.raw = false → tag.content.head? ≠ some '{'

private theorem no_closingBraces_within {content : Text} (raw : Bool) (noBrace : '}' ∉ content) :
    ¬ SyntaxError.closingBraces raw <:+:
      content ++ (SyntaxError.closingBraces raw).dropLast := by
  intro inside
  have counted := inside.sublist.count_le '}'
  rw [List.count_append, List.count_eq_zero_of_not_mem noBrace] at counted
  cases raw <;> simp [SyntaxError.closingBraces] at counted

theorem cut?_inside_append {tag : Tag} (delimited : tag.Delimited) (rest : Text) :
    cut? (tag.inside ++ rest) = .ok (tag, rest) := by
  obtain ⟨raw, content⟩ := tag
  have ended : Text.cut? (SyntaxError.closingBraces raw)
      (content ++ (SyntaxError.closingBraces raw ++ rest)) = some (content, rest) := by
    rw [← List.append_assoc, Text.cut?_eq_some_iff (by cases raw <;> simp [SyntaxError.closingBraces])]
    exact ⟨rfl, no_closingBraces_within raw delimited.noBrace⟩
  cases raw with
  | true => simp [inside, cut?, ended]
  | false =>
    have start := delimited.notRaw rfl
    unfold cut? inside
    split
    rename_i raw inner shape
    split at shape
    · rename_i other brace
      cases content with
      | nil => simp [SyntaxError.closingBraces] at brace
      | cons c content =>
        simp only [Bool.false_eq_true, if_false, List.nil_append, List.cons_append,
          List.cons.injEq] at brace
        exact absurd (congrArg some brace.1) start
    · cases shape
      simp [ended]

theorem name?_eq_ok {tag : Tag} {offset : Nat} {part name : Text}
    (found : tag.name? offset part = .ok name) :
    isBindName name = true ∧ ∃ before after, Text.AllBlank before ∧ Text.AllBlank after ∧
      part = before ++ name ++ after := by
  simp only [name?] at found
  split at found
  · rename_i valid
    cases found
    exact ⟨valid, Text.exists_eq_append_trim part⟩
  · cases found

theorem name?_append {before name after : Text} (tag : Tag) (offset : Nat)
    (valid : isBindName name = true) (blankBefore : Text.AllBlank before)
    (blankAfter : Text.AllBlank after) :
    tag.name? offset (before ++ name ++ after) = .ok name := by
  simp only [name?, trim_name valid blankBefore blankAfter, valid, if_true]

private theorem name?_sign_eq_ok {tag : Tag} {offset : Nat} {sign : Char} {part name : Text}
    (signed : Text.trim tag.content = sign :: part) (named : tag.name? offset part = .ok name) :
    isBindName name = true ∧ ∃ outer before after, Text.AllBlank outer ∧ Text.AllBlank before ∧
      Text.AllBlank after ∧ tag.content = outer ++ [sign] ++ before ++ name ++ after := by
  obtain ⟨outer, trailing, blankOuter, blankTrailing, whole⟩ :=
    Text.exists_eq_append_trim tag.content
  obtain ⟨valid, before, after, blankBefore, blankAfter, rfl⟩ := name?_eq_ok named
  refine ⟨valid, outer, before, after ++ trailing, blankOuter, blankBefore,
    blankAfter.append blankTrailing, ?_⟩
  rw [whole, signed]
  simp

private theorem source_of_content {content : Text} :
    source ⟨false, content⟩ = ['{', '{'] ++ content ++ ['}', '}'] := rfl

theorem tagForm_of_token_eq_ok {tag : Tag} {offset : Nat} {token : Token}
    (meant : tag.token offset = .ok token) : token.TagForm offset tag.source := by
  obtain ⟨raw, content⟩ := tag
  cases raw with
  | true =>
    obtain ⟨name, named, rfl⟩ := ok_of_map_eq_ok meant
    obtain ⟨valid, before, after, blankBefore, blankAfter, rfl⟩ := name?_eq_ok named
    have form : Token.TagForm offset (.slot name false offset) _ :=
      .rawSlot valid blankBefore blankAfter
    simpa [source, mark, SyntaxError.closingBraces] using form
  | false =>
    simp only [Tag.token, Bool.false_eq_true, if_false] at meant
    split at meant
    · rename_i part signed
      obtain ⟨name, named, rfl⟩ := ok_of_map_eq_ok meant
      obtain ⟨valid, outer, before, after, blankOuter, blankBefore, blankAfter, rfl⟩ :=
        name?_sign_eq_ok signed named
      have form : Token.TagForm offset (.opening name false offset) _ :=
        .opening valid blankOuter blankBefore blankAfter
      simpa [source_of_content, openingSign] using form
    · rename_i part signed
      obtain ⟨name, named, rfl⟩ := ok_of_map_eq_ok meant
      obtain ⟨valid, outer, before, after, blankOuter, blankBefore, blankAfter, rfl⟩ :=
        name?_sign_eq_ok signed named
      have form : Token.TagForm offset (.opening name true offset) _ :=
        .opening valid blankOuter blankBefore blankAfter
      simpa [source_of_content, openingSign] using form
    · rename_i part signed
      obtain ⟨name, named, rfl⟩ := ok_of_map_eq_ok meant
      obtain ⟨valid, outer, before, after, blankOuter, blankBefore, blankAfter, rfl⟩ :=
        name?_sign_eq_ok signed named
      have form : Token.TagForm offset (.closing name offset) _ :=
        .closing valid blankOuter blankBefore blankAfter
      simpa [source_of_content] using form
    · cases meant
    · obtain ⟨name, named, rfl⟩ := ok_of_map_eq_ok meant
      obtain ⟨outer, trailing, blankOuter, blankTrailing, whole⟩ :=
        Text.exists_eq_append_trim content
      obtain ⟨valid, before, after, blankBefore, blankAfter, parts⟩ := name?_eq_ok named
      have form : Token.TagForm offset (.slot name true offset) _ :=
        .slot valid (blankOuter.append blankBefore) (blankAfter.append blankTrailing)
      rw [whole, parts]
      simpa [source_of_content] using form

private theorem brace_not_mem_of_allBlank {text : Text} (blank : text.AllBlank) {c : Char}
    (brace : c = '{' ∨ c = '}') : c ∉ text := by
  intro member
  have isBlank := blank c member
  rcases brace with rfl | rfl <;> cases isBlank

private theorem brace_not_mem_of_isBindName {name : Text} (valid : isBindName name = true)
    {c : Char} (brace : c = '{' ∨ c = '}') : c ∉ name := by
  intro member
  have other := (isNameChar_of_isBindName valid member).ne_brace
  rcases brace with rfl | rfl
  · exact other.1 rfl
  · exact other.2 rfl

private theorem brace_not_mem_spaced {before name after : Text} (valid : isBindName name = true)
    (blankBefore : before.AllBlank) (blankAfter : after.AllBlank) {c : Char}
    (brace : c = '{' ∨ c = '}') : c ∉ before ++ name ++ after := by
  simp [brace_not_mem_of_allBlank blankBefore brace, brace_not_mem_of_isBindName valid brace,
    brace_not_mem_of_allBlank blankAfter brace]

private theorem brace_not_mem_signed {outer before name after : Text} {sign : Char}
    (notBrace : sign ≠ '{' ∧ sign ≠ '}') (valid : isBindName name = true)
    (blankOuter : outer.AllBlank) (blankBefore : before.AllBlank) (blankAfter : after.AllBlank)
    {c : Char} (brace : c = '{' ∨ c = '}') :
    c ∉ outer ++ [sign] ++ before ++ name ++ after := by
  have notSign : c ≠ sign := by
    rintro rfl
    exact brace.elim notBrace.1 notBrace.2
  have inner := brace_not_mem_spaced valid blankBefore blankAfter brace
  have inOuter := brace_not_mem_of_allBlank blankOuter brace
  simp only [List.mem_append, List.mem_singleton, not_or] at inner ⊢
  exact ⟨⟨⟨⟨inOuter, notSign⟩, inner.1.1⟩, inner.1.2⟩, inner.2⟩

/-- A content without braces is delimited by the ends of its tag. -/
theorem delimited_of_not_mem {raw : Bool} {content : Text}
    (absent : ∀ c, c = '{' ∨ c = '}' → c ∉ content) : (Tag.mk raw content).Delimited :=
  ⟨absent '}' (.inr rfl), fun _ start => absent '{' (.inl rfl) (List.mem_of_head? start)⟩

private theorem trim_sign {outer before name after : Text} {sign : Char}
    (valid : isBindName name = true) (notBlank : Text.isBlank sign = false)
    (blankOuter : outer.AllBlank) (blankAfter : after.AllBlank) :
    Text.trim (outer ++ [sign] ++ before ++ name ++ after) = sign :: (before ++ name) := by
  have shape : outer ++ [sign] ++ before ++ name ++ after =
      outer ++ (sign :: (before ++ name)) ++ after := by simp
  rw [shape]
  apply Text.trim_append blankOuter blankAfter
  · intro c first
    cases first
    exact notBlank
  · intro c last
    have final : c ∈ name.getLast? := by
      rw [← List.cons_append, List.getLast?_append] at last
      cases ends : name.getLast? with
      | none => exact absurd (List.getLast?_eq_none_iff.mp ends) (ne_nil_of_isBindName valid)
      | some d => simpa [ends] using last
    exact (isNameChar_of_isBindName valid (List.mem_of_getLast? final)).isBlank_eq_false

private theorem name?_append_name {before name : Text} (tag : Tag) (offset : Nat)
    (valid : isBindName name = true) (blankBefore : before.AllBlank) :
    tag.name? offset (before ++ name) = .ok name := by
  simpa using name?_append tag offset valid blankBefore Text.allBlank_nil

private theorem token_slot {offset : Nat} {before name after : Text}
    (valid : isBindName name = true) (blankBefore : before.AllBlank)
    (blankAfter : after.AllBlank) :
    (Tag.mk false (before ++ name ++ after)).token offset = .ok (.slot name true offset) := by
  have trimmed : name.trim = name := by
    simpa using trim_name valid Text.allBlank_nil Text.allBlank_nil
  simp only [Tag.token, Bool.false_eq_true, if_false, trim_name valid blankBefore blankAfter]
  split
  all_goals first
    | cases valid
    | simp only [name?, trimmed, valid, if_true]; rfl

theorem exists_tag_of_tagForm {offset : Nat} {token : Token} {piece : Text}
    (form : token.TagForm offset piece) :
    ∃ tag : Tag, tag.source = piece ∧ tag.Delimited ∧ tag.token offset = .ok token := by
  cases form with
  | @slot name before after valid blankBefore blankAfter =>
    refine ⟨⟨false, before ++ name ++ after⟩, by simp [source_of_content], ?_,
      token_slot valid blankBefore blankAfter⟩
    exact delimited_of_not_mem fun c => brace_not_mem_spaced valid blankBefore blankAfter
  | @rawSlot name before after valid blankBefore blankAfter =>
    refine ⟨⟨true, before ++ name ++ after⟩,
      by simp [source, mark, SyntaxError.closingBraces], ?_, ?_⟩
    · exact delimited_of_not_mem fun c => brace_not_mem_spaced valid blankBefore blankAfter
    · simp only [Tag.token, if_true, name?_append _ offset valid blankBefore blankAfter]
      rfl
  | @opening name outer before after inverted valid blankOuter blankBefore blankAfter =>
    have notBlank : Text.isBlank (openingSign inverted) = false := by cases inverted <;> rfl
    refine ⟨⟨false, outer ++ [openingSign inverted] ++ before ++ name ++ after⟩,
      by simp [source_of_content], ?_, ?_⟩
    · have notBrace : openingSign inverted ≠ '{' ∧ openingSign inverted ≠ '}' := by
        cases inverted <;> decide
      exact delimited_of_not_mem fun c =>
        brace_not_mem_signed notBrace valid blankOuter blankBefore blankAfter
    · simp only [Tag.token, Bool.false_eq_true, if_false,
        trim_sign valid notBlank blankOuter blankAfter]
      cases inverted <;>
        simp only [openingSign, Bool.false_eq_true, if_false, if_true,
          name?_append_name _ offset valid blankBefore] <;> rfl
  | @closing name outer before after valid blankOuter blankBefore blankAfter =>
    refine ⟨⟨false, outer ++ ['/'] ++ before ++ name ++ after⟩,
      by simp [source_of_content], ?_, ?_⟩
    · exact delimited_of_not_mem fun c =>
        brace_not_mem_signed (by decide) valid blankOuter blankBefore blankAfter
    · simp only [Tag.token, Bool.false_eq_true, if_false,
        trim_sign valid (show Text.isBlank '/' = false from rfl) blankOuter blankAfter,
        name?_append_name _ offset valid blankBefore]
      rfl

end Tag

end QueryTemplate
