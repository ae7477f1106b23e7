import QueryTemplate.Json.Writer
import QueryTemplate.Proofs.ReadDocuments
import QueryTemplate.Proofs.TextSearch
import QueryTemplate.Proofs.WholeNumbers

/-! JSON text that was written is read back. The text of a document falls into the lexemes of the
document, and these take the reader from where a document may start to where it has been read. Left
out are binary numbers, which are rounded twice when they are read. -/

set_option autoImplicit false

namespace QueryTemplate

theorem Members.put_of_not_mem {key : Text} {members : Members} (missing : key ∉ members.map Prod.fst)
    (document : Document) : members.put key document = members ++ [(key, document)] := by
  induction members with
  | nil => rfl
  | cons member members ih =>
    obtain ⟨own, below⟩ := member
    obtain ⟨other, missing⟩ := not_or.mp (mt List.mem_cons.mpr missing)
    simp only [put, if_neg (Ne.symm other), ih missing, List.cons_append]

theorem Members.put_of_nodup {before members : Members} {member : Text × Document}
    (distinct : ((before ++ member :: members).map Prod.fst).Nodup) :
    before.put member.1 member.2 = before ++ [member] := by
  refine put_of_not_mem (fun twice => ?_) member.2
  rw [List.map_append, List.nodup_append] at distinct
  exact distinct.2.2 _ twice _ List.mem_cons_self rfl

theorem Whole.ofInt?_val (n : Whole) : Whole.ofInt? n.val = some n :=
  dif_pos ⟨n.lower, n.upper⟩

namespace Text

theorem ofCodePoint?_toNat (c : Char) : ofCodePoint? c.toNat = some c := by
  rw [ofCodePoint?, if_pos (show c.toNat.isValidChar from c.valid), Char.ofNat_toNat]

theorem head?_decimal {n : Nat} (positive : 0 < n) : (decimal n).head? ≠ some '0' := by
  induction n using Nat.strong_induction_on with
  | _ n ih =>
    by_cases small : n < 10
    · have digits : ∀ n < 10, 0 < n → (decimal n).head? ≠ some '0' := by decide
      exact digits n small positive
    · have written : decimal n = decimal (n / 10) ++ [(n % 10).digitChar] :=
        Nat.toDigits_of_base_le (by decide) (by omega)
      rw [written, List.head?_append_of_ne_nil _ (decimal_ne_nil _)]
      exact ih (n / 10) (by omega) (by omega)

end Text

namespace Json

/-! ## Strings -/

namespace Lexeme

theorem exists_codeUnit_of_control {n : Nat} (control : n < 0x20) :
    ∃ a b c d, Text.padZeros 4 (Text.hexadecimal n) = [a, b, c, d] ∧
      codeUnit? a b c d = some n := by
  have each : ∀ n < 0x20, (Text.padZeros 4 (Text.hexadecimal n)).length = 4 ∧
      Text.ofDigitsInBase? 16 (Text.padZeros 4 (Text.hexadecimal n)) = some n := by decide
  obtain ⟨length, value⟩ := each n control
  match written : Text.padZeros 4 (Text.hexadecimal n), length with
  | [a, b, c, d], _ => exact ⟨a, b, c, d, rfl, (congrArg _ written.symm).trans value⟩

theorem stringBody_plain {c : Char} (rest : Text) (notQuote : c ≠ '"') (notEscape : c ≠ '\\')
    (notControl : ¬ c < ' ') :
    stringBody (c :: rest) = Text.prepend (some c) (stringBody rest) := by
  rw [stringBody.eq_def]
  split
  · rename_i nothing
    cases nothing
  · rename_i quoted
    exact absurd (List.cons.inj quoted).1 notQuote
  · rename_i escaped
    exact absurd (List.cons.inj escaped).1 notEscape
  · rename_i escaped
    exact absurd (List.cons.inj escaped).1 notEscape
  · rename_i plain
    cases plain
    exact if_neg notControl

/-- Each character is read back by itself. -/
theorem stringBody_escapedChar (c : Char) (rest : Text) :
    stringBody (escapedChar c ++ rest) = Text.prepend (some c) (stringBody rest) := by
  unfold escapedChar
  split
  case h_8 notQuote notEscape _ _ _ _ _ =>
    split
    · rename_i control
      obtain ⟨a, b, d, e, written, value⟩ := exists_codeUnit_of_control (n := c.toNat) control
      simp only [written, List.cons_append, List.nil_append, stringBody, value,
        Text.ofCodePoint?_toNat]
    · rename_i notControl
      exact stringBody_plain rest notQuote notEscape notControl
  all_goals rfl

theorem stringBody_flatMap (text rest : Text) :
    stringBody (text.flatMap escapedChar ++ '"' :: rest) = some (text, rest) := by
  induction text with
  | nil => simp only [List.flatMap_nil, List.nil_append, stringBody]
  | cons c text ih =>
    rw [List.flatMap_cons, List.append_assoc, stringBody_escapedChar, ih]
    rfl

end Lexeme

/-! ## Numbers -/

namespace NumberText

theorem whole?_decimal (n : Nat) : whole? (Text.decimal n) = some (Text.decimal n) := by
  unfold whole?
  split
  · rename_i second others written
    cases n with
    | zero => cases written
    | succ n =>
      have leading : (Text.decimal (n + 1)).head? = some '0' := by rw [written]; rfl
      exact absurd leading (Text.head?_decimal n.succ_pos)
  · refine if_pos ⟨Text.decimal_ne_nil n, List.all_eq_true.mpr fun c member => ?_⟩
    exact Text.isDigit_of_mem_decimal member

theorem parse?_of_sign {text : Text} {negative : Bool} {n : Nat}
    (signed : sign text = (negative, Text.decimal n)) :
    parse? text = some ⟨negative, Text.decimal n, none, none⟩ := by
  have absent {c : Char} (other : c.isDigit = false) : c ∉ Text.decimal n := fun member => by
    cases other.symm.trans (Text.isDigit_of_mem_decimal member)
  have lower : (Text.decimal n).map (fun c => if c = 'E' then 'e' else c) = Text.decimal n := by
    refine (List.map_congr_left fun c member => if_neg ?_).trans (List.map_id _)
    rintro rfl
    exact absent rfl member
  have undivided {c : Char} (other : c.isDigit = false) :
      Text.fields c (Text.decimal n) = [Text.decimal n] :=
    Text.fields_eq_iff.mpr ⟨by simp, by simpa using absent other, by simp⟩
  simp only [parse?, signed, lower, undivided (show 'e'.isDigit = false from rfl),
    Option.bind_eq_bind, Option.bind_some, undivided (show '.'.isDigit = false from rfl),
    whole?_decimal, Option.map_some]

theorem sign_decimal (n : Nat) : sign (Text.decimal n) = (false, Text.decimal n) := by
  unfold sign
  split
  · rename_i rest written
    have digit : '-'.isDigit = true := Text.isDigit_of_mem_decimal (written ▸ List.mem_cons_self)
    cases digit
  · rfl

theorem parse?_signedDecimal (i : Int) :
    parse? (Text.signedDecimal i) = some ⟨decide (i < 0), Text.decimal i.natAbs, none, none⟩ := by
  cases i with
  | ofNat n =>
    rw [decide_eq_false (by simp)]
    exact parse?_of_sign (sign_decimal n)
  | negSucc n =>
    rw [decide_eq_true (Int.negSucc_lt_zero n)]
    exact parse?_of_sign rfl

theorem wholeValue?_natAbs (n : Whole) :
    wholeValue? ⟨decide (n.val < 0), Text.decimal n.val.natAbs, none, none⟩ = some n := by
  simp only [wholeValue?, Text.ofDigits_decimal]
  by_cases negative : n.val < 0
  · have value : -(n.val.natAbs : Int) = n.val := by omega
    rw [decide_eq_true negative, if_pos rfl, if_neg (by omega), value, n.ofInt?_val]
  · have value : (n.val.natAbs : Int) = n.val := by omega
    rw [decide_eq_false negative, if_neg (by simp), value, n.ofInt?_val]

theorem bind_document?_signedDecimal (n : Whole) :
    (parse? (Text.signedDecimal n.val)).bind document? = some (.whole n) := by
  simp only [parse?_signedDecimal, Option.bind_some, document?, wholeValue?_natAbs]

end NumberText

/-! ## Lexemes -/

namespace Lexeme

/-- That no number and no word can go on at the start of a text. -/
def IsApart (rest : Text) : Prop := ∀ c ∈ rest.head?, isNumeric c = false ∧ c.isAlpha = false

/-- That a text is read as some lexemes, whatever stands behind it apart from it. -/
def ReadAs (text : Text) (lexemes : List Lexeme) : Prop :=
  ∀ rest, IsApart rest → ofText? (text ++ rest) = (ofText? rest).map (lexemes ++ ·)

theorem ofText?_of_read? {c : Char} {rest behind : Text} {lexeme : Lexeme}
    (visible : isBlank c = false) (read : read? c rest = some (lexeme, behind)) :
    ofText? (c :: rest) = (ofText? behind).map (lexeme :: ·) := by
  rw [ofText?, if_neg (by simp [visible])]
  split
  · rename_i nothing
    cases nothing.symm.trans read
  · rename_i found
    cases found.symm.trans read
    rfl

theorem ReadAs.of_read? {c : Char} {text : Text} {lexeme : Lexeme} (visible : isBlank c = false)
    (read : ∀ rest, IsApart rest → read? c (text ++ rest) = some (lexeme, rest)) :
    ReadAs (c :: text) [lexeme] := by
  intro rest apart
  rw [List.cons_append, ofText?_of_read? visible (read rest apart)]
  rfl

theorem readAs_nil : ReadAs [] [] := fun rest _ => by simp

theorem ReadAs.append {front back : Text} {lexemes others : List Lexeme}
    (first : ReadAs front lexemes) (second : ReadAs back others) (nonempty : back ≠ [])
    (apart : IsApart back) : ReadAs (front ++ back) (lexemes ++ others) := by
  intro rest further
  have behind : IsApart (back ++ rest) := by
    rwa [IsApart, List.head?_append_of_ne_nil _ nonempty]
  rw [List.append_assoc, first _ behind, second rest further]
  cases ofText? rest <;> simp

theorem apart_of_mark? {c : Char} {mark : Lexeme} (isMark : mark? c = some mark) :
    isBlank c = false ∧ isNumeric c = false ∧ c.isAlpha = false := by
  unfold mark? at isMark
  split at isMark
  case h_7 => cases isMark
  all_goals exact ⟨rfl, rfl, rfl⟩

theorem isApart_mark_cons {c : Char} {mark : Lexeme} (isMark : mark? c = some mark) (rest : Text) :
    IsApart (c :: rest) := by
  rintro d ⟨⟩
  exact (apart_of_mark? isMark).2

theorem ReadAs.cons_mark {c : Char} {mark : Lexeme} {text : Text} {lexemes : List Lexeme}
    (isMark : mark? c = some mark) (behind : ReadAs text lexemes) :
    ReadAs (c :: text) (mark :: lexemes) := by
  intro rest apart
  have read : read? c (text ++ rest) = some (mark, text ++ rest) := by simp only [read?, isMark]
  rw [List.cons_append, ofText?_of_read? (apart_of_mark? isMark).1 read, behind rest apart]
  cases ofText? rest <;> rfl

theorem ReadAs.intercalate {parts : List Text} {lexemes : List (List Lexeme)}
    (each : List.Forall₂ ReadAs parts lexemes) :
    ReadAs ([','].intercalate parts) ([comma].intercalate lexemes) := by
  induction each with
  | nil => exact readAs_nil
  | @cons part own parts lexemes first others ih =>
    cases others with
    | nil => simpa using first
    | cons second others =>
      rw [List.intercalate_cons_cons, List.intercalate_cons_cons, List.append_assoc,
        List.append_assoc]
      exact first.append (.cons_mark rfl ih) (by simp) (isApart_mark_cons rfl _)

theorem readAs_stringText (text : Text) : ReadAs (stringText text) [.string text] := by
  have written : stringText text = '"' :: (text.flatMap escapedChar ++ ['"']) := rfl
  rw [written]
  refine ReadAs.of_read? rfl fun rest _ => ?_
  have unmarked : mark? '"' = none := rfl
  simp only [read?, unmarked, List.append_assoc, List.singleton_append, stringBody_flatMap,
    if_true, Option.map_some]

theorem takeWhile_append_apart {p : Char → Bool} {text rest : Text} (own : ∀ c ∈ text, p c = true)
    (other : ∀ c ∈ rest.head?, p c = false) :
    (text ++ rest).takeWhile p = text ∧ (text ++ rest).dropWhile p = rest := by
  rw [List.takeWhile_append_of_pos own, List.dropWhile_append_of_pos own]
  cases rest with
  | nil => simp
  | cons c rest => simp [other c rfl]

theorem unmarked_of_alphanum {c : Char} (plain : c = '-' ∨ c.isAlphanum = true) :
    mark? c = none ∧ c ≠ '"' ∧ isBlank c = false := by
  have different {d : Char} (other : d ≠ '-' ∧ d.isAlphanum = false) : c ≠ d := by
    rintro rfl
    rcases plain with same | letter
    · exact other.1 same
    · cases other.2.symm.trans letter
  refine ⟨?_, different (by decide), ?_⟩
  · unfold mark?
    split
    case h_7 => rfl
    all_goals exact absurd rfl (different (by decide))
  · have blank (d : Char) (other : d ≠ '-' ∧ d.isAlphanum = false) : (c == d) = false :=
      beq_eq_false_iff_ne.mpr (different other)
    simp only [isBlank, blank ' ' (by decide), blank '\t' (by decide), blank '\n' (by decide),
      blank '\r' (by decide), Bool.or_false]

theorem readAs_signedDecimal (n : Whole) :
    ReadAs (Text.signedDecimal n.val) [.scalar (.whole n)] := by
  have numeric : ∀ c ∈ Text.signedDecimal n.val, c = '-' ∨ c.isDigit = true :=
    fun c member => Text.mem_signedDecimal member
  have value := NumberText.bind_document?_signedDecimal n
  cases written : Text.signedDecimal n.val with
  | nil =>
    rw [written] at value
    cases value
  | cons c text =>
    rw [written] at numeric value
    obtain ⟨first, others⟩ := List.forall_mem_cons.mp numeric
    have own : ∀ d ∈ text, isNumeric d = true := by
      intro d member
      rcases others d member with rfl | digit
      · rfl
      · simp only [isNumeric, digit, Bool.true_or]
    have alphanum : c = '-' ∨ c.isAlphanum = true :=
      first.imp_right fun digit => Bool.or_eq_true_iff.mpr (.inr digit)
    obtain ⟨unmarked, notQuote, visible⟩ := unmarked_of_alphanum alphanum
    refine ReadAs.of_read? visible fun rest apart => ?_
    obtain ⟨taken, left⟩ := takeWhile_append_apart own fun d head => (apart d head).1
    simp only [read?, unmarked, if_neg notQuote, if_pos first, taken, left, value, Option.map_some]

theorem readAs_word {word : Text} {document : Document}
    (letters : (word.all fun c => c.isAlpha && !c.isDigit) = true)
    (isWord : word? word = some document) : ReadAs word [.scalar document] := by
  cases word with
  | nil => cases isWord
  | cons c word =>
    simp only [List.all_eq_true, Bool.and_eq_true, Bool.not_eq_true', List.forall_mem_cons]
      at letters
    obtain ⟨⟨letter, notDigit⟩, others⟩ := letters
    obtain ⟨unmarked, notQuote, visible⟩ :=
      unmarked_of_alphanum (.inr (Bool.or_eq_true_iff.mpr (.inl letter)))
    have notNumber : ¬ (c = '-' ∨ c.isDigit = true) := by
      rintro (rfl | digit)
      · cases letter
      · cases notDigit.symm.trans digit
    refine ReadAs.of_read? visible fun rest apart => ?_
    obtain ⟨taken, left⟩ :=
      takeWhile_append_apart (fun d member => (others d member).1) fun d head => (apart d head).2
    simp only [read?, unmarked, if_neg notQuote, if_neg notNumber, taken, left, isWord,
      Option.map_some]

/-- The lexemes of the JSON form of a document. -/
def ofDocument : Document → List Lexeme
  | .string t => [string t]
  | .array items => openArray :: ([comma].intercalate (items.map ofDocument) ++ [closeArray])
  | .object members =>
    openObject ::
      ([comma].intercalate
          (members.map fun member => string member.1 :: colon :: ofDocument member.2) ++
        [closeObject])
  | document => [scalar document]
termination_by document => sizeOf document
decreasing_by
  · have inside := List.sizeOf_lt_of_mem ‹_ ∈ items›
    simp only [Document.array.sizeOf_spec]
    omega
  · have inside := List.sizeOf_lt_of_mem ‹member ∈ members›
    have below : sizeOf member = 1 + sizeOf member.1 + sizeOf member.2 := rfl
    simp only [Document.object.sizeOf_spec]
    omega

end Lexeme

theorem writeItems_eq_map (items : List Document) : writeItems items = items.map write := by
  induction items with
  | nil => rfl
  | cons item items ih => rw [writeItems, ih, List.map_cons]

theorem writeMembers_eq_map (members : Members) :
    writeMembers members =
      members.map fun member => stringText member.1 ++ [':'] ++ write member.2 := by
  induction members with
  | nil => rfl
  | cons member members ih => rw [writeMembers, ih, List.map_cons]

end Json

/-- That a document has no binary numbers and no key twice in an object, and that its arrays and
objects lie within each other up to a depth. -/
inductive Document.IsExact : Nat → Document → Prop where
  | null {depth : Nat} : IsExact depth null
  | boolean {depth : Nat} {b : Bool} : IsExact depth (boolean b)
  | whole {depth : Nat} {n : Whole} : IsExact depth (whole n)
  | string {depth : Nat} {t : Text} : IsExact depth (string t)
  | array {depth : Nat} {items : List Document} :
      (∀ item ∈ items, IsExact depth item) → IsExact (depth + 1) (array items)
  | object {depth : Nat} {members : Members} : (members.map Prod.fst).Nodup →
      (∀ member ∈ members, IsExact depth member.2) → IsExact (depth + 1) (object members)

namespace Json

namespace Lexeme

theorem readAs_write {depth : Nat} {document : Document} (exact : document.IsExact depth) :
    ReadAs (write document) (ofDocument document) := by
  have bracketed {first last : Char} {start close : Lexeme} {parts : List Text}
      {lexemes : List (List Lexeme)} (opens : mark? first = some start)
      (closes : mark? last = some close) (each : List.Forall₂ ReadAs parts lexemes) :
      ReadAs ([first] ++ [','].intercalate parts ++ [last])
        (start :: ([comma].intercalate lexemes ++ [close])) :=
    .cons_mark opens
      ((ReadAs.intercalate each).append (.cons_mark closes readAs_nil) (by simp)
        (isApart_mark_cons closes []))
  induction exact with
  | null =>
    simp only [write, ofDocument]
    exact readAs_word (by decide) rfl
  | @boolean _ b =>
    simp only [write, ofDocument]
    cases b
    · exact readAs_word (by decide) rfl
    · exact readAs_word (by decide) rfl
  | @whole _ n =>
    simp only [write, ofDocument]
    exact readAs_signedDecimal n
  | @string _ t =>
    rw [write, ofDocument]
    exact readAs_stringText t
  | @array _ items _ ih =>
    rw [write, ofDocument, writeItems_eq_map]
    refine bracketed rfl rfl ?_
    rw [List.forall₂_map_left_iff, List.forall₂_map_right_iff, List.forall₂_same]
    exact ih
  | @object _ members _ _ ih =>
    rw [write, ofDocument, writeMembers_eq_map]
    refine bracketed rfl rfl ?_
    rw [List.forall₂_map_left_iff, List.forall₂_map_right_iff, List.forall₂_same]
    intro member inside
    rw [List.append_assoc]
    exact (readAs_stringText member.1).append (.cons_mark rfl (ih member inside)) (by simp)
      (isApart_mark_cons rfl _)

end Lexeme

/-! ## Reading back -/

namespace State

/-- That some lexemes lead from one state to another. -/
def Run (state : State) (lexemes : List Lexeme) (last : State) : Prop :=
  lexemes.foldlM step state = some last

theorem Run.cons {state next last : State} {lexeme : Lexeme} {lexemes : List Lexeme}
    (taken : state.step lexeme = some next) (further : next.Run lexemes last) :
    state.Run (lexeme :: lexemes) last := by
  rw [Run, List.foldlM_cons, taken]
  exact further

theorem Run.append {state middle last : State} {front back : List Lexeme}
    (first : state.Run front middle) (further : middle.Run back last) :
    state.Run (front ++ back) last := by
  rw [Run, List.foldlM_append, first]
  exact further

theorem Run.single {state last : State} {lexeme : Lexeme}
    (taken : state.step lexeme = some last) : state.Run [lexeme] last :=
  .cons taken rfl

/-- A first item is read as any other item, because it does not end the array. -/
theorem Run.firstItem {stack : List Frame} {lexemes : List Lexeme} {last : List Frame}
    {document : Document} (run : (value (.items [] :: stack)).Run lexemes (after last document)) :
    (firstItem stack).Run lexemes (after last document) := by
  cases lexemes with
  | nil => cases run
  | cons lexeme lexemes =>
    cases lexeme with
    | closeArray => cases run
    | _ => exact run

theorem run_items {stack : List Frame} {item : Document} {items : List Document}
    (each : ∀ below ∈ item :: items, ∀ frame,
      (value (frame :: stack)).Run (Lexeme.ofDocument below) (after (frame :: stack) below))
    (before : List Document) :
    (value (.items before :: stack)).Run
      ([Lexeme.comma].intercalate ((item :: items).map Lexeme.ofDocument) ++ [Lexeme.closeArray])
      (after stack (.array (before.reverse ++ item :: items))) := by
  obtain ⟨first, others⟩ := List.forall_mem_cons.mp each
  induction items generalizing item before with
  | nil =>
    rw [List.map_singleton, List.intercalate_singleton, ← List.reverse_cons]
    exact (first (.items before)).append (.single rfl)
  | cons second items ih =>
    obtain ⟨next, later⟩ := List.forall_mem_cons.mp others
    have further := ih others (item :: before) next later
    rw [List.reverse_cons, List.append_assoc, List.singleton_append] at further
    rw [List.map_cons, List.map_cons, List.intercalate_cons_cons, List.append_assoc,
      List.append_assoc]
    exact (first (.items before)).append (.cons rfl further)

theorem run_members {stack : List Frame} {member : Text × Document} {members : Members}
    (each : ∀ below ∈ member :: members, ∀ frame, (value (frame :: stack)).Run
      (Lexeme.ofDocument below.2) (after (frame :: stack) below.2))
    (before : Members) (mayEnd : Bool)
    (distinct : ((before ++ member :: members).map Prod.fst).Nodup) :
    (key stack before mayEnd).Run
      ([Lexeme.comma].intercalate ((member :: members).map fun member =>
          .string member.1 :: .colon :: Lexeme.ofDocument member.2) ++ [Lexeme.closeObject])
      (after stack (.object (before ++ member :: members))) := by
  obtain ⟨first, others⟩ := List.forall_mem_cons.mp each
  induction members generalizing member before mayEnd with
  | nil =>
    rw [List.map_singleton, List.intercalate_singleton, ← Members.put_of_nodup distinct]
    exact .cons rfl (.cons rfl ((first (.member before member.1)).append (.single rfl)))
  | cons second members ih =>
    have stored := Members.put_of_nodup distinct
    rw [List.append_cons before member (second :: members), ← stored] at distinct ⊢
    obtain ⟨next, later⟩ := List.forall_mem_cons.mp others
    have further := ih others (before.put member.1 member.2) false distinct next later
    rw [List.map_cons, List.map_cons, List.intercalate_cons_cons, List.append_assoc,
      List.append_assoc]
    exact .cons rfl (.cons rfl ((first (.member before member.1)).append (.cons rfl further)))

theorem run_ofDocument {depth : Nat} {document : Document} (exact : document.IsExact depth)
    {stack : List Frame} (shallow : stack.length + depth ≤ depthLimit) :
    (value stack).Run (Lexeme.ofDocument document) (after stack document) := by
  induction exact generalizing stack with
  | null | boolean | whole | string =>
    simp only [Lexeme.ofDocument]
    exact .single rfl
  | @array depth items _ ih =>
    have started : (value stack).step .openArray = some (firstItem stack) := if_pos (by omega)
    rw [Lexeme.ofDocument]
    refine .cons started ?_
    cases items with
    | nil => exact .single rfl
    | cons item items =>
      have each : ∀ below ∈ item :: items, ∀ frame, (value (frame :: stack)).Run
          (Lexeme.ofDocument below) (after (frame :: stack) below) := by
        intro below inside frame
        exact ih below inside (by rw [List.length_cons]; omega)
      exact (run_items each []).firstItem
  | @object depth members distinct _ ih =>
    have started : (value stack).step .openObject = some (key stack [] true) := if_pos (by omega)
    rw [Lexeme.ofDocument]
    refine .cons started ?_
    cases members with
    | nil => exact .single rfl
    | cons member members =>
      have each : ∀ below ∈ member :: members, ∀ frame, (value (frame :: stack)).Run
          (Lexeme.ofDocument below.2) (after (frame :: stack) below.2) := by
        intro below inside frame
        exact ih below inside (by rw [List.length_cons]; omega)
      exact run_members each [] true distinct

end State

/-- Documents that are within the depth that is read are read back from their JSON form. -/
theorem read?_write {depth : Nat} {document : Document} (exact : document.IsExact depth)
    (shallow : depth ≤ State.depthLimit) : read? (write document) = some document := by
  have lexed : Lexeme.ofText? (write document) = some (Lexeme.ofDocument document) := by
    simpa [Lexeme.ofText?] using Lexeme.readAs_write exact [] (by simp [Lexeme.IsApart])
  have run : (Lexeme.ofDocument document).foldlM State.step (.value []) =
      some (.after [] document) :=
    State.run_ofDocument exact (by simpa using shallow)
  simp only [read?, lexed, run, Option.bind_eq_bind, Option.bind_some, State.result?]

end Json

end QueryTemplate
