/-!
# Text

A text is the list of its characters, so that every scan is a recursion on it. Positions that an
error reports are counted in bytes of the UTF-8 form, which `Text.byteLength` measures; no text is
ever cut at such a position.

Main statements: the order of texts is transitive, total and antisymmetric (`atMost_trans`,
`atMost_total`, `eq_of_atMost`); `cut?` loses nothing and cuts at the first place
(`eq_of_cut?_eq_some`, `cut?_eq_none_iff`); the fields of a text, joined again, are the text
(`join_fields`).
-/

set_option autoImplicit false

namespace QueryTemplate

abbrev Text := List Char

namespace Text

/-- The number of bytes of the UTF-8 form. -/
def byteLength : Text → Nat
  | [] => 0
  | c :: rest => c.utf8Size + byteLength rest

@[simp] theorem byteLength_nil : byteLength [] = 0 := rfl

@[simp] theorem byteLength_cons (c : Char) (rest : Text) :
    byteLength (c :: rest) = c.utf8Size + byteLength rest := rfl

@[simp] theorem byteLength_append (front back : Text) :
    byteLength (front ++ back) = byteLength front + byteLength back := by
  induction front with
  | nil => simp
  | cons c front ih => simp [ih, Nat.add_assoc]

/-- Whether a text does not come after another one in the order of code points. -/
def atMost : Text → Text → Bool
  | [], _ => true
  | _ :: _, [] => false
  | c :: rest, d :: other => decide (c < d) || (c == d && atMost rest other)

@[simp] theorem atMost_cons_iff {c d : Char} {rest other : Text} :
    atMost (c :: rest) (d :: other) = true ↔ c < d ∨ c = d ∧ atMost rest other = true := by
  simp [atMost]

theorem atMost_trans (first middle last : Text) (front : atMost first middle = true)
    (back : atMost middle last = true) : atMost first last = true := by
  induction first generalizing middle last with
  | nil => rfl
  | cons c first ih =>
    cases middle with
    | nil => cases front
    | cons d middle =>
      cases last with
      | nil => cases back
      | cons e last =>
        rw [atMost_cons_iff] at front back ⊢
        rcases front with lower | ⟨rfl, front⟩
        · rcases back with further | ⟨rfl, _⟩
          · exact .inl (Char.lt_trans lower further)
          · exact .inl lower
        · exact back.imp id fun ⟨same, back⟩ => ⟨same, ih middle last front back⟩

theorem atMost_total (left right : Text) : (atMost left right || atMost right left) = true := by
  rw [Bool.or_eq_true]
  induction left generalizing right with
  | nil => exact .inl rfl
  | cons c left ih =>
    cases right with
    | nil => exact .inr rfl
    | cons d right =>
      rw [atMost_cons_iff, atMost_cons_iff]
      by_cases lower : c < d
      · exact .inl (.inl lower)
      · by_cases higher : d < c
        · exact .inr (.inl higher)
        · obtain rfl : c = d := Char.le_antisymm (Char.not_lt.mp higher) (Char.not_lt.mp lower)
          exact (ih right).imp (fun least => .inr ⟨rfl, least⟩) fun most => .inr ⟨rfl, most⟩

theorem eq_of_atMost {left right : Text} (least : atMost left right = true)
    (most : atMost right left = true) : left = right := by
  induction left generalizing right with
  | nil =>
    cases right with
    | nil => rfl
    | cons d right => cases most
  | cons c left ih =>
    cases right with
    | nil => cases least
    | cons d right =>
      rw [atMost_cons_iff] at least most
      rcases least with lower | ⟨rfl, least⟩
      · rcases most with higher | ⟨same, _⟩
        · exact absurd higher (Char.lt_asymm lower)
        · exact absurd same.symm (Char.ne_of_lt lower)
      · rcases most with higher | ⟨_, most⟩
        · exact absurd higher (Char.lt_irrefl c)
        · rw [ih least most]

def ofBool (b : Bool) : Text := if b then "true".toList else "false".toList

/-- The text that a sequence of bytes encodes in UTF-8, if it does. -/
def ofUtf8? (bytes : ByteArray) : Option Text := (String.fromUTF8? bytes).map String.toList

/-- What follows `front` in a text that starts with it. -/
def after? : (front : Text) → Text → Option Text
  | [], text => some text
  | _ :: _, [] => none
  | c :: front, d :: text => if c = d then after? front text else none

theorem after?_eq_some_iff {front text rest : Text} :
    after? front text = some rest ↔ text = front ++ rest := by
  induction front generalizing text with
  | nil => simp [after?]
  | cons c front ih =>
    cases text with
    | nil => simp [after?]
    | cons d text =>
      by_cases same : c = d
      · simp [after?, same, ih]
      · simp [after?, same, Ne.symm same]

/-- Cuts a text at the first place where `mark` stands: what precedes it there, and what follows
it. -/
def cut? (mark : Text) : Text → Option (Text × Text)
  | [] => (after? mark []).map fun rest => ([], rest)
  | c :: text =>
    match after? mark (c :: text) with
    | some rest => some ([], rest)
    | none => (cut? mark text).map fun (before, rest) => (c :: before, rest)

theorem eq_of_cut?_eq_some {mark text before rest : Text}
    (found : cut? mark text = some (before, rest)) : text = before ++ mark ++ rest := by
  induction text generalizing before rest with
  | nil =>
    simp only [cut?, Option.map_eq_some_iff] at found
    obtain ⟨_, starts, equal⟩ := found
    cases equal
    simpa using after?_eq_some_iff.mp starts
  | cons c text ih =>
    unfold cut? at found
    split at found
    · rename_i _ starts
      cases found
      simpa using after?_eq_some_iff.mp starts
    · obtain ⟨⟨_, _⟩, inner, equal⟩ := Option.map_eq_some_iff.mp found
      cases equal
      simp [ih inner]

theorem length_of_cut?_eq_some {mark text before rest : Text}
    (found : cut? mark text = some (before, rest)) :
    text.length = before.length + mark.length + rest.length := by
  simp [eq_of_cut?_eq_some found]
  omega

theorem cut?_eq_none_iff {mark text : Text} : cut? mark text = none ↔ ¬ mark <:+: text := by
  induction text with
  | nil =>
    cases mark with
    | nil => simp [cut?, after?]
    | cons c mark => simp [cut?, after?]
  | cons c text ih =>
    unfold cut?
    cases starts : after? mark (c :: text) with
    | some rest =>
      simp only [reduceCtorEq, false_iff]
      exact fun absent => absent ⟨[], rest, by simpa using (after?_eq_some_iff.mp starts).symm⟩
    | none =>
      have notFront : ¬ mark <+: c :: text := by
        rintro ⟨rest, equal⟩
        rw [after?_eq_some_iff.mpr equal.symm] at starts
        cases starts
      simp [ih, List.infix_cons_iff, notFront]

/-- A character in front of what was read of a text, if both were read. -/
def prepend (character? : Option Char) (read? : Option (Text × Text)) : Option (Text × Text) :=
  match character?, read? with
  | some character, some (text, rest) => some (character :: text, rest)
  | _, _ => none

theorem prepend_eq_some {character? : Option Char} {read? : Option (Text × Text)}
    {content rest : Text} (both : prepend character? read? = some (content, rest)) :
    ∃ character text, character? = some character ∧ read? = some (text, rest) ∧
      content = character :: text := by
  unfold prepend at both
  split at both
  · cases both
    exact ⟨_, _, rfl, rfl, rfl⟩
  · cases both

/-- The pieces of a text between the places where `separator` stands: one more than those. -/
def fields (separator : Char) : Text → List Text
  | [] => [[]]
  | c :: text =>
    if c = separator then [] :: fields separator text
    else
      match fields separator text with
      | [] => [[c]]
      | first :: others => (c :: first) :: others

theorem fields_ne_nil (separator : Char) (text : Text) : fields separator text ≠ [] := by
  induction text with
  | nil => simp [fields]
  | cons c text ih =>
    by_cases equal : c = separator
    · simp [fields, equal]
    · cases split : fields separator text with
      | nil => simp [fields, equal, split]
      | cons first others => simp [fields, equal, split]

theorem join_fields (separator : Char) (text : Text) :
    [separator].intercalate (fields separator text) = text := by
  induction text with
  | nil => simp [fields]
  | cons c text ih =>
    by_cases equal : c = separator
    · subst equal
      cases split : fields c text with
      | nil => exact absurd split (fields_ne_nil c text)
      | cons first others =>
        rw [split] at ih
        simp [fields, split, List.intercalate_cons_cons, ih]
    · cases split : fields separator text with
      | nil => exact absurd split (fields_ne_nil separator text)
      | cons first others =>
        rw [split] at ih
        simp only [fields, equal, if_false, split]
        cases others with
        | nil => simpa using ih
        | cons second others =>
          rw [List.intercalate_cons_cons] at ih ⊢
          simp [ih]

end Text

end QueryTemplate
