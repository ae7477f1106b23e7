import Mathlib.Data.List.Infix
import Mathlib.Data.List.TakeWhile
import QueryTemplate.Text.Blank

/-! Exact specifications of the searches that reading is made of: cutting a text at the first
place of a mark, trimming blanks, and dividing a text at a separator. All are stated for texts
that are put together again, so that a reader and a writer can share them. -/

set_option autoImplicit false

namespace QueryTemplate

namespace Text

theorem after?_eq_none_iff {front text : Text} : after? front text = none ↔ ¬ front <+: text := by
  constructor
  · rintro absent ⟨rest, rfl⟩
    rw [after?_eq_some_iff.mpr rfl] at absent
    cases absent
  · intro notPrefix
    cases starts : after? front text with
    | none => rfl
    | some rest => exact absurd ⟨rest, (after?_eq_some_iff.mp starts).symm⟩ notPrefix

private theorem cut?_mark_append {mark rest : Text} (nonempty : mark ≠ []) :
    cut? mark (mark ++ rest) = some ([], rest) := by
  cases mark with
  | nil => exact absurd rfl nonempty
  | cons c mark =>
    have starts : after? (c :: mark) (c :: mark ++ rest) = some rest := after?_eq_some_iff.mpr rfl
    rw [List.cons_append, cut?, ← List.cons_append, starts]

private theorem append_dropLast_prefix (before mark rest : Text) :
    before ++ mark.dropLast <+: before ++ mark ++ rest := by
  rw [List.append_assoc]
  exact (List.prefix_append_right_inj before).mpr
    ((List.dropLast_prefix mark).trans (List.prefix_append mark rest))

/-- No mark starts within what precedes the first one, not even one that would end in the mark
itself. -/
theorem not_infix_of_cut?_eq_some {mark text before rest : Text} (nonempty : mark ≠ [])
    (found : cut? mark text = some (before, rest)) : ¬ mark <:+: before ++ mark.dropLast := by
  induction text generalizing before with
  | nil =>
    cases mark with
    | nil => exact absurd rfl nonempty
    | cons c mark => simp [cut?, after?] at found
  | cons c text ih =>
    unfold cut? at found
    split at found
    · cases found
      intro inside
      have bound := inside.length_le
      have positive := List.length_pos_iff.mpr nonempty
      simp only [List.nil_append, List.length_dropLast] at bound
      omega
    · rename_i starts
      obtain ⟨⟨tail, remaining⟩, inner, equal⟩ := Option.map_eq_some_iff.mp found
      cases equal
      rw [List.cons_append, List.infix_cons_iff]
      rintro (front | inside)
      · have whole : c :: (tail ++ mark.dropLast) <+: c :: text := by
          rw [eq_of_cut?_eq_some inner]
          exact append_dropLast_prefix (c :: tail) mark rest
        exact after?_eq_none_iff.mp starts (front.trans whole)
      · exact ih inner inside

/-- A text is cut at a place exactly if the mark stands there and starts nowhere before. -/
theorem cut?_eq_some_iff {mark text before rest : Text} (nonempty : mark ≠ []) :
    cut? mark text = some (before, rest) ↔
      text = before ++ mark ++ rest ∧ ¬ mark <:+: before ++ mark.dropLast := by
  constructor
  · intro found
    exact ⟨eq_of_cut?_eq_some found, not_infix_of_cut?_eq_some nonempty found⟩
  · rintro ⟨rfl, first⟩
    induction before with
    | nil => exact cut?_mark_append nonempty
    | cons c before ih =>
      have earlier : after? mark (c :: (before ++ mark ++ rest)) = none := by
        rw [after?_eq_none_iff]
        intro front
        have shorter := append_dropLast_prefix (c :: before) mark rest
        have fits : mark.length ≤ (c :: before ++ mark.dropLast).length := by
          simp only [List.cons_append, List.length_cons, List.length_append, List.length_dropLast]
          omega
        exact first (List.prefix_of_prefix_length_le front shorter fits).isInfix
      have inner := ih fun inside => first (List.infix_cons_iff.mpr (.inr inside))
      rw [List.cons_append, List.cons_append, cut?, earlier, inner]
      rfl

theorem cut?_char_eq_none_iff {c : Char} {text : Text} : cut? [c] text = none ↔ c ∉ text := by
  rw [cut?_eq_none_iff, List.singleton_infix_iff]

theorem cut?_char_eq_some_iff {c : Char} {text before rest : Text} :
    cut? [c] text = some (before, rest) ↔ text = before ++ [c] ++ rest ∧ c ∉ before := by
  rw [cut?_eq_some_iff (by simp), List.dropLast_singleton, List.append_nil,
    List.singleton_infix_iff]

def AllBlank (text : Text) : Prop := ∀ c ∈ text, isBlank c = true

theorem allBlank_nil : AllBlank [] := by
  intro c member
  cases member

theorem AllBlank.append {front back : Text} (left : AllBlank front) (right : AllBlank back) :
    AllBlank (front ++ back) := by
  intro c member
  rcases List.mem_append.mp member with inFront | inBack
  · exact left c inFront
  · exact right c inBack

theorem AllBlank.not_mem {blanks : Text} (blank : AllBlank blanks) {c : Char}
    (visible : isBlank c = false) : c ∉ blanks := by
  intro member
  rw [blank c member] at visible
  cases visible

theorem exists_eq_append_trim (text : Text) :
    ∃ before after, AllBlank before ∧ AllBlank after ∧ text = before ++ trim text ++ after := by
  have backwards : (trimStart text).reverse.takeWhile isBlank ++ (trim text).reverse =
      (trimStart text).reverse := by
    simp [trim, trimEnd]
  refine ⟨leadingBlanks text, ((trimStart text).reverse.takeWhile isBlank).reverse, ?_, ?_, ?_⟩
  · intro c member
    exact List.mem_takeWhile_imp member
  · intro c member
    exact List.mem_takeWhile_imp (List.mem_reverse.mp member)
  · have forwards := congrArg List.reverse backwards
    simp only [List.reverse_append, List.reverse_reverse] at forwards
    rw [List.append_assoc, forwards, leadingBlanks_append_trimStart]

private theorem dropWhile_of_head {text : Text}
    (first : ∀ c ∈ text.head?, isBlank c = false) : text.dropWhile isBlank = text := by
  cases text with
  | nil => rfl
  | cons c text => simp [first c rfl]

/-- A text that neither starts nor ends with a blank is what is left of it between blanks. -/
theorem trim_append {before core after : Text} (blankBefore : AllBlank before)
    (blankAfter : AllBlank after) (first : ∀ c ∈ core.head?, isBlank c = false)
    (last : ∀ c ∈ core.getLast?, isBlank c = false) : trim (before ++ core ++ after) = core := by
  have backwards : core.reverse.dropWhile isBlank = core.reverse :=
    dropWhile_of_head (by simpa using last)
  have start : trimEnd (core ++ after) = core := by
    rw [trimEnd, List.reverse_append, List.dropWhile_append_of_pos, backwards, List.reverse_reverse]
    intro c member
    exact blankAfter c (List.mem_reverse.mp member)
  rw [trim, trimStart, List.append_assoc, List.dropWhile_append_of_pos blankBefore]
  cases core with
  | nil =>
    have nothing : after.dropWhile isBlank = [] := List.dropWhile_eq_nil_iff.mpr blankAfter
    rw [List.nil_append, nothing]
    rfl
  | cons c core =>
    rw [dropWhile_of_head (by simpa using first)]
    exact start

structure Trimmed (text : Text) : Prop where
  first : ∀ c ∈ text.head?, isBlank c = false
  last : ∀ c ∈ text.getLast?, isBlank c = false

theorem trimmed_of_visible {text : Text} (visible : ∀ c ∈ text, isBlank c = false) :
    Trimmed text := by
  constructor
  · intro c first
    exact visible c (List.mem_of_head? first)
  · intro c last
    exact visible c (List.mem_of_getLast? last)

private theorem not_isBlank_of_head?_dropWhile {text : Text} {c : Char}
    (first : c ∈ (text.dropWhile isBlank).head?) : isBlank c = false := by
  have starts := List.head?_dropWhile_not isBlank text
  rw [Option.mem_def.mp first] at starts
  exact starts

private theorem head?_trimEnd {text : Text} {c : Char} (first : c ∈ (trimEnd text).head?) :
    c ∈ text.head? := by
  have start : trimEnd text <+: text := by
    rw [← List.reverse_suffix, trimEnd, List.reverse_reverse]
    exact List.dropWhile_suffix isBlank
  obtain ⟨rest, whole⟩ := start
  rw [← whole]
  cases ending : trimEnd text with
  | nil =>
    rw [ending] at first
    cases first
  | cons d others =>
    rw [ending] at first
    exact first

theorem trimmed_trim (text : Text) : Trimmed (trim text) := by
  constructor
  · intro c first
    exact not_isBlank_of_head?_dropWhile (head?_trimEnd first)
  · intro c last
    rw [trim, trimEnd, List.getLast?_reverse] at last
    exact not_isBlank_of_head?_dropWhile last

theorem Trimmed.trim_append {before core after : Text} (trimmed : Trimmed core)
    (blankBefore : AllBlank before) (blankAfter : AllBlank after) :
    trim (before ++ core ++ after) = core :=
  Text.trim_append blankBefore blankAfter trimmed.first trimmed.last

/-! ## Fields -/

theorem fields_eq_splitOn (separator : Char) (text : Text) :
    fields separator text = text.splitOn separator := by
  induction text with
  | nil => rfl
  | cons c text ih =>
    rw [fields, List.splitOn_cons_eq_if_modifyHead, ← ih]
    by_cases equal : c = separator
    · simp [equal]
    · simp only [equal, if_false, beq_iff_eq]
      cases split : fields separator text with
      | nil => exact absurd split (fields_ne_nil separator text)
      | cons first others => rfl

theorem of_mem_fields {separator : Char} {text field : Text}
    (member : field ∈ fields separator text) : ∀ c ∈ field, c ≠ separator ∧ c ∈ text := by
  induction text generalizing field with
  | nil =>
    cases List.mem_singleton.mp member
    simp
  | cons c text ih =>
    have later (other : Text) (inside : other ∈ fields separator text) :
        ∀ d ∈ other, d ≠ separator ∧ d ∈ c :: text := by
      intro d inOther
      obtain ⟨different, inText⟩ := ih inside d inOther
      exact ⟨different, List.mem_cons_of_mem c inText⟩
    rw [fields] at member
    by_cases equal : c = separator
    · rw [if_pos equal] at member
      rcases List.mem_cons.mp member with rfl | further
      · simp
      · exact later field further
    · rw [if_neg equal] at member
      cases split : fields separator text with
      | nil => exact absurd split (fields_ne_nil separator text)
      | cons first others =>
        rw [split] at member later
        rcases List.mem_cons.mp member with rfl | further
        · intro d inField
          rcases List.mem_cons.mp inField with rfl | inFirst
          · exact ⟨equal, List.mem_cons_self⟩
          · exact later first List.mem_cons_self d inFirst
        · exact later field (List.mem_cons_of_mem first further)

theorem not_mem_intercalate {c : Char} {separator : Text} {parts : List Text}
    (apart : c ∉ separator) (clear : ∀ part ∈ parts, c ∉ part) :
    c ∉ separator.intercalate parts := by
  induction parts with
  | nil => simp
  | cons part parts ih =>
    obtain ⟨own, others⟩ := List.forall_mem_cons.mp clear
    cases parts with
    | nil => simpa using own
    | cons next parts =>
      rw [List.intercalate_cons_cons, List.mem_append, List.mem_append, not_or, not_or]
      exact ⟨⟨own, apart⟩, ih others⟩

/-- Separated parts, said from one of them. -/
theorem intercalate_append_cons (separator : Text) (before : List Text) (part : Text)
    (after : List Text) :
    separator.intercalate (before ++ part :: after) =
      before.flatMap (fun other => other ++ separator) ++ part ++
        after.flatMap (fun other => separator ++ other) := by
  induction before with
  | nil =>
    induction after generalizing part with
    | nil => simp
    | cons next after ih =>
      have further := ih next
      rw [List.nil_append] at further
      rw [List.nil_append, List.intercalate_cons_cons, further]
      simp
  | cons first before ih =>
    have nonempty : before ++ part :: after ≠ [] := by simp
    rw [List.cons_append, List.intercalate_cons_of_ne_nil nonempty, ih]
    simp

/-- The fields of a text are the one way to write it as separated parts without a separator. -/
theorem fields_eq_iff {separator : Char} {text : Text} {parts : List Text} :
    fields separator text = parts ↔
      parts ≠ [] ∧ (∀ part ∈ parts, separator ∉ part) ∧ text = [separator].intercalate parts := by
  constructor
  · intro divided
    subst divided
    refine ⟨fields_ne_nil separator text, ?_, (join_fields separator text).symm⟩
    intro part member separatorInside
    exact (of_mem_fields member separator separatorInside).1 rfl
  · intro written
    obtain ⟨nonempty, clear, rfl⟩ := written
    rw [fields_eq_splitOn, List.splitOn_intercalate separator clear nonempty]

end Text

end QueryTemplate
