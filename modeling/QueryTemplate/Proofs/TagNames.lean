import QueryTemplate.Proofs.FlatReading

/-! The names that a template asks for, read off the tokens of its source. A name belongs to the
first slot or opening tag that uses it; later tags add nothing, and closing tags never do. -/

set_option autoImplicit false

namespace QueryTemplate

namespace Text

/-- The names of a list that were not used before, each at the first place where it stands. -/
def firstUses (used : List Text) : List Text → List Text
  | [] => []
  | name :: names =>
    if used.contains name then firstUses used names
    else name :: firstUses (name :: used) names

theorem mem_firstUses {used names : List Text} {name : Text} :
    name ∈ firstUses used names ↔ name ∈ names ∧ name ∉ used := by
  induction names generalizing used with
  | nil => simp [firstUses]
  | cons first names ih =>
    by_cases same : name = first
    · subst same
      by_cases known : name ∈ used <;> simp [firstUses, known, ih]
    · by_cases known : first ∈ used <;> simp [firstUses, known, same, ih]

theorem nodup_firstUses (used names : List Text) : (firstUses used names).Nodup := by
  induction names generalizing used with
  | nil => exact List.nodup_nil
  | cons name names ih =>
    simp only [firstUses]
    split
    · exact ih used
    · refine List.nodup_cons.mpr ⟨?_, ih (name :: used)⟩
      intro again
      exact (mem_firstUses.mp again).2 List.mem_cons_self

theorem firstUses_eq_eraseDups (used names : List Text) :
    firstUses used names = (names.filter fun name => name ∉ used).eraseDups := by
  induction names generalizing used with
  | nil => rfl
  | cons name names ih =>
    by_cases known : name ∈ used
    · simp [firstUses, known, ih]
    · -- A repetition of the name is left out on the right, and is a used name on the left.
      have others : (names.filter fun other => other ∉ name :: used) =
          (names.filter fun other => other ∉ used).filter fun other => !other == name := by
        simp only [List.filter_filter]
        refine List.filter_congr fun other _ => ?_
        by_cases same : other = name <;> simp [same]
      simp only [firstUses, List.contains_iff_mem, known, if_false, ih, others, List.filter_cons,
        not_false_eq_true, decide_true, if_true, List.eraseDups_cons]

end Text

/-- The name that a tag asks for. A closing tag only repeats one. -/
def Token.bindName? : Token → Option Text
  | .slot name _ _ => some name
  | .opening name _ _ => some name
  | .text _ => none
  | .closing _ _ => none

namespace Template

/-- The names in the tree are in the order of the tags: that of a block comes before those of its
body, and these before those behind the block. -/
theorem filterMap_bindName?_of_flattens {t : Template} {tokens : List Token}
    (flattens : t.Flattens tokens) : tokens.filterMap Token.bindName? = t.names := by
  induction flattens with
  | nil => rfl
  | literal _ ih => exact ih
  | slot _ ih => exact congrArg (_ :: ·) ih
  | @block name inverted opened closed body rest inner tokens _ _ bodyIH ih =>
    have skipped : (Token.closing name closed :: tokens).filterMap Token.bindName? =
        tokens.filterMap Token.bindName? := rfl
    calc
      _ = name :: (inner.filterMap Token.bindName? ++ tokens.filterMap Token.bindName?) := by
        simp only [List.filterMap_cons, List.filterMap_append, Token.bindName?]
      _ = name :: (body.names ++ rest.names) := by simp only [bodyIH, ih]

theorem bindNames_eq_firstUses (t : Template) : t.bindNames = Text.firstUses [] t.names := by
  simp [bindNames, Text.firstUses_eq_eraseDups]

/-- The names of a template that was read are those of the slots and opening tags of its source, in
the order of the tokens and at whatever depth, each at the first place where it is used. None is
listed twice, none of them is missing, and reading the template again from the source that is
written for it does not change them. -/
theorem bindNames_of_parse {source : Text} {t : Template} (parsed : parse source = .ok t) :
    ∃ tokens, Token.ofSource source = .ok tokens ∧
      t.bindNames = (tokens.filterMap Token.bindName?).eraseDups ∧
      t.bindNames = Text.firstUses [] (tokens.filterMap Token.bindName?) ∧
      t.bindNames.Nodup ∧
      (∀ name, name ∈ t.bindNames ↔ ∃ token ∈ tokens, token.bindName? = some name) ∧
      ∃ again, parse t.toSource = .ok again ∧ again.bindNames = t.bindNames := by
  obtain ⟨tokens, reads, flattens⟩ := exists_tokens_of_parse parsed
  have names := filterMap_bindName?_of_flattens flattens
  have scanned := t.bindNames_eq_firstUses
  refine ⟨tokens, reads, ?_, ?_, ?_, ?_, t, (isNormal_of_parse parsed).parse_toSource, rfl⟩
  · exact congrArg List.eraseDups names.symm
  · simpa only [names] using scanned
  · simpa only [scanned] using Text.nodup_firstUses [] t.names
  · intro name
    simp only [scanned, Text.mem_firstUses, ← names, List.mem_filterMap, List.not_mem_nil,
      not_false_eq_true, and_true]

/-- A block of a name inside another one of that name, and a name that only a body uses. -/
theorem bindNames_of_parse_nested :
    let source := "{{# b }}{{a}}{{#b}}{{{c}}}{{/b}}{{/b}}{{^a}}{{/a}}".toList
    let t := block ['b'] false
      (slot ['a'] true (block ['b'] false (slot ['c'] false nil) nil)) (block ['a'] true nil nil)
    parse source = .ok t ∧ t.bindNames = [['b'], ['a'], ['c']] ∧
      ∃ tokens, Token.ofSource source = .ok tokens ∧
        t.bindNames = Text.firstUses [] (tokens.filterMap Token.bindName?) := by
  intro source t
  have parsed : parse source = .ok t := by decide +kernel
  obtain ⟨tokens, reads, _, scanned, _⟩ := bindNames_of_parse parsed
  exact ⟨parsed, by decide, tokens, reads, scanned⟩

end Template

end QueryTemplate
