import QueryTemplate.Proofs.TokenGrammar

/-! Reading tokens by byte positions. The scan of a source keeps no rest of it, only the number
of bytes read so far, and slices the source at positions that it computes. A slice at a position
inside of a character has no result here, and neither has a scan that is out of rounds, so that
any result shows that all slices were proper and that the rounds were enough. -/

set_option autoImplicit false

namespace QueryTemplate

namespace Text

/-- The two parts of a text at a byte position. There are none if the position is inside of a
character or behind the end. -/
def splitAtByte? : Text → Nat → Option (Text × Text)
  | text, 0 => some ([], text)
  | [], _ + 1 => none
  | c :: text, position + 1 =>
    if c.utf8Size ≤ position + 1 then
      (splitAtByte? text (position + 1 - c.utf8Size)).map fun parts => (c :: parts.1, parts.2)
    else none

def findByte? (mark text : Text) : Option Nat :=
  (cut? mark text).map fun parts => byteLength parts.1

theorem splitAtByte?_append (front back : Text) :
    splitAtByte? (front ++ back) front.byteLength = some (front, back) := by
  induction front with
  | nil => cases back <;> rfl
  | cons c front ih =>
    have positive := Char.utf8Size_pos c
    obtain ⟨position, same⟩ : ∃ position, byteLength (c :: front) = position + 1 :=
      ⟨byteLength (c :: front) - 1, by rw [byteLength_cons]; omega⟩
    have fits : c.utf8Size ≤ position + 1 := by rw [← same, byteLength_cons]; omega
    have remaining : position + 1 - c.utf8Size = byteLength front := by
      rw [← same, byteLength_cons]; omega
    rw [List.cons_append, same, splitAtByte?, if_pos fits, remaining, ih]
    rfl

theorem byteLength_pos_iff {text : Text} : 0 < byteLength text ↔ text ≠ [] := by
  cases text with
  | nil => simp
  | cons c text =>
    have positive := Char.utf8Size_pos c
    simp only [byteLength_cons, ne_eq, reduceCtorEq, not_false_eq_true, iff_true]
    omega

end Text

namespace Token

/-- Reads the tag at the start of a text: its token and the number of its bytes. -/
def tagByBytes (text : Text) (offset : Nat) : Option (Except SyntaxError (Token × Nat)) :=
  let raw := (Text.after? ('{' :: Tag.mark) text).isSome
  let opening := Text.byteLength (if raw then '{' :: Tag.mark else Tag.mark)
  match Text.splitAtByte? text opening with
  | none => none
  | some (_, inside) =>
    match Text.findByte? (SyntaxError.closingBraces raw) inside with
    | none => some (.error (.unclosedTag raw offset))
    | some length =>
      match Text.splitAtByte? inside length with
      | none => none
      | some (content, _) =>
        some ((Tag.token ⟨raw, content⟩ offset).map fun token =>
          (token, opening + length + Text.byteLength (SyntaxError.closingBraces raw)))

/-- Reads the tokens of a source from a byte position on, in a number of rounds. -/
def scanByBytes (source : Text) : (rounds position : Nat) →
    Option (Except SyntaxError (List Token))
  | 0, _ => none
  | rounds + 1, position =>
    match Text.splitAtByte? source position with
    | none => none
    | some (_, unread) =>
      match Text.findByte? Tag.mark unread with
      | none => some (.ok (if position < source.byteLength then [.text unread] else []))
      | some found =>
        match Text.splitAtByte? unread found, Text.splitAtByte? source (position + found) with
        | some (before, _), some (_, fromTag) =>
          match tagByBytes fromTag (position + found) with
          | none => none
          | some (.error error) => some (.error error)
          | some (.ok (token, consumed)) =>
            (scanByBytes source rounds (position + found + consumed)).map fun others =>
              others.map fun tokens =>
                if 0 < found then .text before :: token :: tokens else token :: tokens
        | _, _ => none

/-- What reading a tag behind its first two braces comes to. -/
private def tagOfCut (raw : Bool) (offset : Nat) (inner : Text) :
    Except SyntaxError (Token × Nat) :=
  match Text.cut? (SyntaxError.closingBraces raw) inner with
  | none => .error (.unclosedTag raw offset)
  | some (content, _) =>
    (Tag.token ⟨raw, content⟩ offset).map fun token =>
      (token, (Tag.mk raw content).source.byteLength)

private theorem tagByBytes_of_opening {raw : Bool} {text inner : Text} (offset : Nat)
    (starts : text = (if raw then '{' :: Tag.mark else Tag.mark) ++ inner)
    (kind : (Text.after? ('{' :: Tag.mark) text).isSome = raw) :
    tagByBytes text offset = some (tagOfCut raw offset inner) := by
  have opened : Text.splitAtByte? text
      (Text.byteLength (if raw then '{' :: Tag.mark else Tag.mark)) =
        some (if raw then '{' :: Tag.mark else Tag.mark, inner) := by
    rw [starts]
    exact Text.splitAtByte?_append _ inner
  unfold tagByBytes tagOfCut
  simp only [kind, opened, Text.findByte?]
  cases closed : Text.cut? (SyntaxError.closingBraces raw) inner with
  | none => rfl
  | some parts =>
    obtain ⟨content, rest⟩ := parts
    have sliced : Text.splitAtByte? inner content.byteLength =
        some (content, SyntaxError.closingBraces raw ++ rest) := by
      rw [Text.eq_of_cut?_eq_some closed, List.append_assoc]
      exact Text.splitAtByte?_append content _
    simp only [Option.map_some, sliced, Tag.source, Text.byteLength_append]

theorem exists_opening (inside : Text) :
    ∃ raw inner, Tag.mark ++ inside = (if raw then '{' :: Tag.mark else Tag.mark) ++ inner ∧
      (Text.after? ('{' :: Tag.mark) (Tag.mark ++ inside)).isSome = raw ∧
      Tag.cut? inside =
        match Text.cut? (SyntaxError.closingBraces raw) inner with
        | some (content, rest) => .ok (⟨raw, content⟩, rest)
        | none => .error raw := by
  by_cases brace : ∃ inner, inside = '{' :: inner
  · obtain ⟨inner, rfl⟩ := brace
    have starts : Text.after? ('{' :: Tag.mark) (Tag.mark ++ '{' :: inner) = some inner :=
      Text.after?_eq_some_iff.mpr rfl
    exact ⟨true, inner, rfl, by rw [starts]; rfl, rfl⟩
  · have other : Text.after? ('{' :: Tag.mark) (Tag.mark ++ inside) = none := by
      rw [Text.after?_eq_none_iff]
      rintro ⟨inner, equal⟩
      exact brace ⟨inner, by simpa [Tag.mark] using equal.symm⟩
    refine ⟨false, inside, rfl, by rw [other]; rfl, ?_⟩
    unfold Tag.cut?
    split
    rename_i raw inner shape
    split at shape
    · exact absurd ⟨_, rfl⟩ brace
    · cases shape
      rfl

/-- A tag has a token and a number of bytes, or an error, and never an improper slice. -/
theorem tagByBytes_mark_append (inside : Text) (offset : Nat) :
    tagByBytes (Tag.mark ++ inside) offset =
      some (match Tag.cut? inside with
        | .error raw => .error (.unclosedTag raw offset)
        | .ok (tag, _) =>
          (tag.token offset).map fun token => (token, tag.source.byteLength)) := by
  obtain ⟨raw, inner, starts, kind, closing⟩ := exists_opening inside
  rw [tagByBytes_of_opening offset starts kind, tagOfCut, closing]
  cases Text.cut? (SyntaxError.closingBraces raw) inner <;> rfl

/-- Behind a part that was read, the scan by positions finds what the scan of the rest finds. One
round is enough for each tag, and no tag is empty. -/
theorem scanByBytes_append (front unread : Text) {rounds : Nat}
    (enough : unread.length < rounds) :
    scanByBytes (front ++ unread) rounds front.byteLength =
      some (scan front.byteLength unread) := by
  induction rounds generalizing front unread with
  | zero => omega
  | succ rounds ih =>
    rw [scanByBytes, Text.splitAtByte?_append]
    cases found : Text.cut? Tag.mark unread with
    | none =>
      rw [scan_of_unmarked _ (Text.cut?_eq_none_iff.mp found)]
      simp only [Text.findByte?, found, Option.map_none, ofText]
      by_cases empty : unread = []
      · simp [empty]
      · have positive := Text.byteLength_pos_iff.mpr empty
        simp [empty, positive]
    | some parts =>
      obtain ⟨before, inside⟩ := parts
      have whole := Text.eq_of_cut?_eq_some found
      rw [List.append_assoc] at whole
      have sliced : Text.splitAtByte? unread before.byteLength =
          some (before, Tag.mark ++ inside) := by
        rw [whole]
        exact Text.splitAtByte?_append before _
      have fromTag : Text.splitAtByte? (front ++ unread) (front.byteLength + before.byteLength) =
          some (front ++ before, Tag.mark ++ inside) := by
        rw [whole, ← List.append_assoc, ← Text.byteLength_append]
        exact Text.splitAtByte?_append (front ++ before) _
      simp only [Text.findByte?, found, Option.map_some, sliced, fromTag, tagByBytes_mark_append,
        scan_of_cut? _ found, scanTag]
      cases closed : Tag.cut? inside with
      | error raw => rfl
      | ok tagged =>
        obtain ⟨tag, rest⟩ := tagged
        cases meant : tag.token (front.byteLength + before.byteLength) with
        | error error => simp only [meant]; rfl
        | ok token =>
          have shorter : rest.length < rounds := by
            have := Text.length_of_cut?_eq_some found
            have := Tag.length_lt_of_cut?_eq_ok closed
            omega
          have next := ih (front ++ before ++ tag.source) rest shorter
          have same : front ++ before ++ tag.source ++ rest = front ++ unread := by
            rw [whole, Tag.eq_of_cut?_eq_ok closed, tag.source_eq]
            simp
          rw [same, Text.byteLength_append, Text.byteLength_append] at next
          simp only [meant, Except.map, next, Option.map_some]
          cases scan (front.byteLength + before.byteLength + tag.source.byteLength) rest with
          | error error => rfl
          | ok others =>
            by_cases empty : before = []
            · simp [empty, ofText]
            · simp [empty, ofText, Text.byteLength_pos_iff.mpr empty]

/-- The sources that have tokens are those that can be cut into written forms of tokens, with
every offset the number of bytes in front of its tag, and the pieces are all of the source.
Read by byte positions instead, every source has the same outcome, within as many rounds as it
has characters and one, and without a slice inside of a character. -/
theorem ofSource_accepts_grammar (source : Text) :
    (∀ tokens, ofSource source = .ok tokens ↔
      ∃ pieces, Writes 0 tokens pieces ∧ pieces.flatten = source) ∧
    scanByBytes source (source.length + 1) 0 = some (ofSource source) := by
  constructor
  · intro tokens
    constructor
    · exact exists_pieces_of_scan
    · rintro ⟨pieces, writes, rfl⟩
      exact scan_flatten writes
  · exact scanByBytes_append [] source (Nat.lt_succ_self source.length)

end Token

end QueryTemplate
