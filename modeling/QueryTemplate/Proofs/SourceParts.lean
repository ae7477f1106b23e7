import QueryTemplate.Proofs.Flattening
import QueryTemplate.Proofs.PositionScan

/-! Parts of sources. Tokens are written wherever they stand, so what is written in front of a
token, or behind it, is written by itself as well. Put together again, two sources have the tokens
of both, except where a brace at the end of the first would meet one at the start of the second,
and except that texts that meet are one text. -/

set_option autoImplicit false

namespace QueryTemplate

theorem Text.ends_of_append {c : Char} {front back : Text} (ends : [c] <:+ front ++ back) :
    [c] <:+ back ∨ back = [] ∧ [c] <:+ front := by
  rcases List.eq_nil_or_concat' back with rfl | ⟨start, last, rfl⟩
  · exact .inr ⟨rfl, by simpa using ends⟩
  · obtain ⟨before, equal⟩ := ends
    rw [← List.append_assoc] at equal
    obtain rfl : c = last := by simpa using List.append_inj_right' equal rfl
    exact .inl (List.suffix_append start [c])

theorem Text.not_brace_ends_tag (front : Text) : ¬ ['{'] <:+ front ++ ['}', '}'] := by
  intro ends
  rcases ends_of_append ends with inEnd | ⟨nothing, _⟩
  · exact absurd inEnd (by decide)
  · cases nothing

namespace Token

/-! ## Offsets -/

/-- A token whose tag stands further behind. -/
def moved (distance : Nat) : Token → Token
  | .text content => .text content
  | .slot name escaped offset => .slot name escaped (distance + offset)
  | .opening name inverted offset => .opening name inverted (distance + offset)
  | .closing name offset => .closing name (distance + offset)

theorem Form.moved {offset : Nat} {token : Token} {piece : Text} (form : token.Form offset piece)
    (distance : Nat) : (token.moved distance).Form (distance + offset) piece := by
  cases form with
  | text nonempty clear => exact .text nonempty clear
  | tag form =>
    apply Form.tag
    cases form with
    | slot valid before after => exact .slot valid before after
    | rawSlot valid before after => exact .rawSlot valid before after
    | opening valid outer before after => exact .opening valid outer before after
    | closing valid outer before after => exact .closing valid outer before after

theorem Adjoins.moved {token next : Token} (adjoins : token.Adjoins next) (distance : Nat) :
    (token.moved distance).Adjoins (next.moved distance) := by
  cases token with
  | text content =>
    refine ⟨?_, adjoins.2⟩
    intro other same
    cases next with
    | text text => exact adjoins.1 text rfl
    | _ => cases same
  | _ => trivial

theorem Writes.moved {offset : Nat} {tokens : List Token} {pieces : List Text}
    (writes : Writes offset tokens pieces) (distance : Nat) :
    Writes (distance + offset) (tokens.map (Token.moved distance)) pieces := by
  induction writes with
  | nil => exact .nil
  | @cons offset token piece tokens pieces form adjoins _ ih =>
    rw [← Nat.add_assoc] at ih
    refine .cons (form.moved distance) ?_ ih
    intro next first
    rw [List.head?_map, Option.mem_def, Option.map_eq_some_iff] at first
    obtain ⟨other, otherFirst, rfl⟩ := first
    exact (adjoins other otherFirst).moved distance

def offset? : Token → Option Nat
  | .text _ => none
  | .slot _ _ offset => some offset
  | .opening _ _ offset => some offset
  | .closing _ offset => some offset

theorem Form.offset_eq {offset place : Nat} {token : Token} {piece : Text}
    (form : token.Form offset piece) (stands : place ∈ token.offset?) : place = offset := by
  cases form with
  | text => cases stands
  | tag form =>
    cases form with
    | slot => exact (Option.some.inj stands).symm
    | rawSlot => exact (Option.some.inj stands).symm
    | opening => exact (Option.some.inj stands).symm
    | closing => exact (Option.some.inj stands).symm

theorem Form.ne_nil {offset : Nat} {token : Token} {piece : Text}
    (form : token.Form offset piece) : piece ≠ [] := by
  cases form with
  | text nonempty => exact nonempty
  | tag form =>
    obtain ⟨inside, rfl⟩ := exists_mark_of_tagForm form
    simp [Tag.mark]

theorem Writes.offset_le {offset place : Nat} {tokens : List Token} {pieces : List Text}
    (writes : Writes offset tokens pieces) {token : Token} (member : token ∈ tokens)
    (stands : place ∈ token.offset?) : offset ≤ place := by
  induction writes with
  | nil => cases member
  | cons form _ _ ih =>
    rcases List.mem_cons.mp member with rfl | member
    · exact (form.offset_eq stands).ge
    · exact Nat.le_of_add_right_le (ih member)

theorem Writes.offsets_increase {offset : Nat} {tokens : List Token} {pieces : List Text}
    (writes : Writes offset tokens pieces) :
    tokens.Pairwise fun earlier later =>
      ∀ place ∈ earlier.offset?, ∀ further ∈ later.offset?, place < further := by
  induction writes with
  | nil => exact .nil
  | @cons offset token piece tokens pieces form _ writes ih =>
    refine List.pairwise_cons.mpr ⟨?_, ih⟩
    intro later member place stands further standsLater
    have here := form.offset_eq stands
    have behind := writes.offset_le member standsLater
    have positive := Text.byteLength_pos_iff.mpr form.ne_nil
    omega

/-! ## Cutting and joining -/

theorem Writes.of_append {offset : Nat} {front back : List Token} {pieces : List Text}
    (writes : Writes offset (front ++ back) pieces) :
    ∃ first second, pieces = first ++ second ∧ Writes offset front first ∧
      Writes (offset + Text.byteLength first.flatten) back second := by
  induction front generalizing offset pieces with
  | nil => exact ⟨[], pieces, rfl, .nil, writes⟩
  | cons token front ih =>
    cases writes with
    | @cons _ _ piece _ pieces form adjoins writes =>
      obtain ⟨first, second, rfl, written, further⟩ := ih writes
      refine ⟨piece :: first, second, rfl, .cons form ?_ written, ?_⟩
      · intro next isFirst
        apply adjoins next
        cases front with
        | nil => cases isFirst
        | cons => exact isFirst
      · rwa [List.flatten_cons, Text.byteLength_append, ← Nat.add_assoc]

theorem Writes.append {offset : Nat} {front back : List Token} {first second : List Text}
    (written : Writes offset front first)
    (further : Writes (offset + Text.byteLength first.flatten) back second)
    (meets : ∀ last ∈ front.getLast?, ∀ next ∈ back.head?, last.Adjoins next) :
    Writes offset (front ++ back) (first ++ second) := by
  induction written with
  | nil => exact further
  | @cons offset token piece tokens pieces form adjoins written ih =>
    rw [List.flatten_cons, Text.byteLength_append, ← Nat.add_assoc] at further
    cases tokens with
    | nil =>
      cases written
      exact .cons form (meets token rfl) further
    | cons next tokens =>
      refine .cons form adjoins (ih further ?_)
      intro last isLast
      exact meets last (by simpa using isLast)

/-- A tag may follow whatever does not end in a brace. -/
theorem Writes.adjoins_tag {offset : Nat} {tokens : List Token} {pieces : List Text}
    (writes : Writes offset tokens pieces) (noBrace : ¬ ['{'] <:+ pieces.flatten) {last : Token}
    (isLast : last ∈ tokens.getLast?) {next : Token} (isTag : ∀ text, next ≠ .text text) :
    last.Adjoins next := by
  obtain ⟨front, rfl⟩ := List.getLast?_eq_some_iff.mp isLast
  obtain ⟨first, second, rfl, _, written⟩ := writes.of_append
  cases written with
  | cons form _ nothing =>
    cases nothing
    cases form with
    | tag form => exact adjoins_of_tagForm form next
    | text =>
      refine ⟨isTag, ?_⟩
      intro ends
      apply noBrace
      rw [List.flatten_append, List.flatten_singleton]
      exact ends.trans (List.suffix_append first.flatten _)

/-- Tokens behind tokens. A text at the end of the first and one at the start of the others are
joined. -/
def splice (front : List Token) : List Token → List Token
  | [] => front
  | token :: tokens => push front token ++ tokens

private theorem Adjoins.of_text {token : Token} {content : Text}
    (adjoins : token.Adjoins (.text content)) (next : Token) : token.Adjoins next := by
  cases token with
  | text other => exact absurd rfl (adjoins.1 content)
  | _ => trivial

private theorem Adjoins.append_text {before after : Text} {next : Token}
    (adjoins : (Token.text after).Adjoins next) (nonempty : after ≠ []) :
    (Token.text (before ++ after)).Adjoins next := by
  refine ⟨adjoins.1, ?_⟩
  intro ends
  rcases Text.ends_of_append ends with inAfter | ⟨nothing, _⟩
  · exact adjoins.2 inAfter
  · exact nonempty nothing

private theorem not_mark_infix_append {before after : Text} (clearBefore : ¬ Tag.mark <:+: before)
    (clearAfter : ¬ Tag.mark <:+: after) (apart : ¬ (['{'] <:+ before ∧ ['{'] <+: after)) :
    ¬ Tag.mark <:+: before ++ after := by
  intro inside
  rcases List.infix_append_iff.mp inside with
    inBefore | inAfter | ⟨left, right, whole, ends, starts⟩
  · exact clearBefore inBefore
  · exact clearAfter inAfter
  · cases left with
    | nil =>
      subst whole
      exact clearAfter starts.isInfix
    | cons c left =>
      cases left with
      | nil =>
        cases whole
        exact apart ⟨ends, starts⟩
      | cons d left =>
        obtain ⟨rfl, rfl, rest⟩ : '{' = c ∧ '{' = d ∧ [] = left ++ right := by
          simpa [Tag.mark] using whole
        obtain ⟨rfl, rfl⟩ := List.append_eq_nil_iff.mp rest.symm
        exact clearBefore ends.isInfix

/-- Two sources that have tokens, one behind the other, have the tokens of both, unless a brace
meets a brace. -/
theorem Writes.splice {offset : Nat} {front back : List Token} {first second : List Text}
    (written : Writes offset front first)
    (further : Writes (offset + Text.byteLength first.flatten) back second)
    (apart : ¬ (['{'] <:+ first.flatten ∧ ['{'] <+: second.flatten)) :
    ∃ pieces, Writes offset (Token.splice front back) pieces ∧
      pieces.flatten = first.flatten ++ second.flatten := by
  cases further with
  | nil => exact ⟨first, written, by simp⟩
  | @cons _ next piece back second form adjoins further =>
    by_cases texts : ∃ before after, front.getLast? = some (.text before) ∧ next = .text after
    · obtain ⟨before, after, isLast, rfl⟩ := texts
      obtain ⟨front, rfl⟩ := List.getLast?_eq_some_iff.mp isLast
      have meets := (List.isChain_append.mp written.isChain).2.2
      obtain ⟨first, last, rfl, frontWritten, lastWritten⟩ := written.of_append
      cases lastWritten with
      | cons lastForm _ nothing =>
        cases nothing
        cases lastForm with
        | tag lastForm => cases lastForm
        | text beforeNonempty beforeClear =>
          cases form with
          | tag form => cases form
          | text afterNonempty afterClear =>
            have clear : ¬ Tag.mark <:+: before ++ piece := by
              apply not_mark_infix_append beforeClear afterClear
              rintro ⟨ends, starts⟩
              refine apart ⟨?_, starts.trans (List.prefix_append piece second.flatten)⟩
              rw [List.flatten_append, List.flatten_singleton]
              exact ends.trans (List.suffix_append first.flatten before)
            rw [List.flatten_append, List.flatten_singleton, Text.byteLength_append, Nat.add_assoc,
              Nat.add_assoc, ← Text.byteLength_append, ← Nat.add_assoc] at further
            refine ⟨first ++ (before ++ piece) :: second, ?_, by simp⟩
            rw [Token.splice, push_append_text, List.append_assoc]
            refine frontWritten.append
              (.cons (.text (by simp [beforeNonempty]) clear) ?_ further) ?_
            · intro other isFirst
              exact (adjoins other isFirst).append_text afterNonempty
            · intro last isLast other isFirst
              exact (meets last isLast _ rfl).of_text other
    · have separate : push front next = front ++ [next] :=
        push_eq_append fun before after isLast same => texts ⟨before, after, isLast, same⟩
      refine ⟨first ++ piece :: second, ?_, by simp⟩
      rw [Token.splice, separate, List.append_assoc]
      refine written.append (.cons form adjoins further) ?_
      intro last isLast other isFirst
      cases isFirst
      cases form with
      | text =>
        cases last with
        | text content => exact absurd ⟨content, _, isLast, rfl⟩ texts
        | _ => trivial
      | tag form =>
        obtain ⟨inside, rfl⟩ := exists_mark_of_tagForm form
        refine written.adjoins_tag (fun ends => apart ⟨ends, by simp [Tag.mark]⟩) isLast ?_
        rintro text rfl
        cases form

/-! ## Sources with tokens -/

theorem scan_moved {offset : Nat} {source : Text} {tokens : List Token}
    (reads : scan offset source = .ok tokens) (distance : Nat) :
    scan (distance + offset) source = .ok (tokens.map (moved distance)) := by
  obtain ⟨pieces, writes, rfl⟩ := exists_pieces_of_scan reads
  exact scan_flatten (writes.moved distance)

theorem ofSource_append {first second : Text} {front back : List Token}
    (reads : ofSource first = .ok front) (further : ofSource second = .ok back)
    (apart : ¬ (['{'] <:+ first ∧ ['{'] <+: second)) :
    ofSource (first ++ second) = .ok (splice front (back.map (moved first.byteLength))) := by
  obtain ⟨frontPieces, written, rfl⟩ := exists_pieces_of_scan reads
  obtain ⟨backPieces, behind, rfl⟩ := exists_pieces_of_scan further
  have placed := behind.moved (Text.byteLength frontPieces.flatten)
  rw [Nat.add_comm] at placed
  obtain ⟨pieces, whole, joined⟩ := written.splice placed apart
  rw [← joined]
  exact scan_flatten whole

theorem ofSource_append_tag {source piece : Text} {tokens : List Token} {token : Token}
    (reads : ofSource source = .ok tokens) (noBrace : ¬ ['{'] <:+ source)
    (form : token.TagForm source.byteLength piece) :
    ofSource (source ++ piece) = .ok (tokens ++ [token]) := by
  obtain ⟨pieces, written, rfl⟩ := exists_pieces_of_scan reads
  have single : Writes (0 + Text.byteLength pieces.flatten) [token] [piece] := by
    rw [Nat.zero_add]
    exact .cons (.tag form) (by simp) .nil
  have whole := written.append single fun last isLast next isNext => by
    cases isNext
    refine written.adjoins_tag noBrace isLast ?_
    rintro text rfl
    cases form
  have read := scan_flatten whole
  rwa [List.flatten_append, List.flatten_singleton] at read

theorem exists_part_of_mem {source : Text} {before after : List Token} {token : Token}
    (reads : ofSource source = .ok (before ++ token :: after)) :
    ∃ front piece rest, source = front ++ (piece ++ rest) ∧ ofSource front = .ok before ∧
      token.Form front.byteLength piece := by
  obtain ⟨pieces, written, rfl⟩ := exists_pieces_of_scan reads
  obtain ⟨front, back, rfl, frontWritten, behind⟩ := written.of_append
  cases behind with
  | @cons _ _ piece _ rest form _ _ =>
    rw [Nat.zero_add] at form
    exact ⟨front.flatten, piece, rest.flatten, by simp, scan_flatten frontWritten, form⟩

end Token

end QueryTemplate
