import QueryTemplate.Proofs.WholeNumbers

/-! Values that need no escaping. All but texts are written with letters, digits, signs and points,
so a slot writes them alike whether it is escaped or not, and all but the truth value `false` are
truthy. -/

set_option autoImplicit false

namespace QueryTemplate

namespace Text

/-- The characters of everything that is written without quotes: letters and digits of ASCII, the
two signs and the point. -/
def isBareChar (c : Char) : Bool := c.isAlphanum || c == '+' || c == '-' || c == '.'

/-- A text of such characters, with one at least. -/
structure IsBare (text : Text) : Prop where
  nonempty : text ≠ []
  chars : ∀ c ∈ text, isBareChar c = true

section Bare

variable {text front back : Text}

theorem isBareChar_of_isDigit {c : Char} (digit : c.isDigit = true) : isBareChar c = true := by
  simp [isBareChar, Char.isAlphanum, digit]

theorem needsEscape_of_isBareChar {c : Char} (bare : isBareChar c = true) :
    needsEscape c = false := by
  refine Bool.eq_false_iff.mpr fun needs => ?_
  simp only [needsEscape, Bool.or_eq_true, beq_iff_eq] at needs
  rcases needs with (rfl | rfl) | rfl <;> cases bare

theorem IsBare.of_all (nonempty : text ≠ []) (all : text.all isBareChar = true) : IsBare text :=
  ⟨nonempty, List.all_eq_true.mp all⟩

theorem IsBare.escape_eq (bare : text.IsBare) : escape text = text :=
  escape_of_plain fun c member => needsEscape_of_isBareChar (bare.chars c member)

theorem IsBare.append (first : IsBare front) (second : IsBare back) : IsBare (front ++ back) :=
  ⟨by simp [first.nonempty], List.forall_mem_append.mpr ⟨first.chars, second.chars⟩⟩

theorem IsBare.cons {c : Char} (bare : isBareChar c = true) (others : IsBare text) :
    IsBare (c :: text) :=
  ⟨by simp, List.forall_mem_cons.mpr ⟨bare, others.chars⟩⟩

theorem isBare_decimal (n : Nat) : IsBare (decimal n) :=
  ⟨decimal_ne_nil n, fun _ member => isBareChar_of_isDigit (isDigit_of_mem_decimal member)⟩

theorem isBare_signedDecimal (i : Int) : IsBare (signedDecimal i) := by
  cases i with
  | ofNat n => exact isBare_decimal n
  | negSucc n => exact .cons rfl (isBare_decimal (n + 1))

theorem IsBare.padZeros (bare : IsBare text) (width : Nat) : IsBare (padZeros width text) := by
  refine ⟨by simp [Text.padZeros, bare.nonempty], fun c member => ?_⟩
  obtain rfl | own := eq_or_mem_of_mem_padZeros member
  · rfl
  · exact bare.chars c own

end Bare

end Text

/-! ## Canonical forms -/

open Text in
theorem Decimal.isBare_positional (d : Decimal) : d.positional.IsBare := by
  unfold positional
  split
  · exact isBare_decimal _
  · have digits := (isBare_decimal d.units).padZeros ((-d.exponent).toNat + 1)
    refine ⟨by simp, List.forall_mem_append.mpr ⟨?_, List.forall_mem_cons.mpr ⟨rfl, ?_⟩⟩⟩
    · exact fun c member => digits.chars c (List.mem_of_mem_take member)
    · exact fun c member => digits.chars c (List.mem_of_mem_drop member)

namespace Binary64

theorem isBare_withSign (x : Binary64) {text : Text} (bare : text.IsBare) :
    (x.withSign text).IsBare := by
  unfold withSign
  split
  · exact .cons rfl bare
  · exact bare

theorem isBare_canonical (x : Binary64) : x.canonical.IsBare := by
  unfold canonical
  split
  · exact .of_all (by simp) (by decide)
  · split
    · exact x.isBare_withSign (.of_all (by simp) (by decide))
    · split
      · exact x.isBare_withSign ((Text.isBare_decimal _).append (.of_all (by simp) (by decide)))
      · exact x.isBare_withSign (Decimal.isBare_positional _)

end Binary64

namespace Date

theorem isBare_yearText (year : Int) : (yearText year).IsBare := by
  have digits := (Text.isBare_decimal year.natAbs).padZeros 4
  unfold yearText
  dsimp only
  split
  · exact .cons rfl digits
  · split
    · exact .cons rfl digits
    · exact digits

theorem isBare_text (d : Date) : d.text.IsBare := by
  have parts (n : Nat) : Text.IsBare ('-' :: Text.padZeros 2 (Text.decimal n)) :=
    .cons rfl ((Text.isBare_decimal n).padZeros 2)
  exact ((isBare_yearText d.year).append (parts d.month)).append (parts d.day)

end Date

theorem Value.isBare_canonical {value : Value} (notText : value.text? = none) :
    value.canonical.IsBare := by
  cases value with
  | text t => cases notText
  | number x => exact x.isBare_canonical
  | integer i => exact Text.isBare_signedDecimal i.toInt
  | boolean b => cases b <;> exact .of_all (by simp [canonical, Text.ofBool]) (by decide)
  | date d => exact d.isBare_text

theorem Values.shown_eq_of_not_text {values : Values}
    (notText : ∀ value ∈ values.head?, value.text? = none) (first second : Bool) :
    values.shown first = values.shown second := by
  have same : Text.escape values.canonical = values.canonical := by
    cases values with
    | nil => rfl
    | cons value others => exact (Value.isBare_canonical (notText value rfl)).escape_eq
  cases first <;> cases second <;> simp [shown, same]

namespace Template

/-- Templates that are alike but for some slots of the given names, which are escaped in one of
them and not in the other. -/
inductive Switched (names : List Text) : Template → Template → Prop where
  | nil : Switched names nil nil
  | literal {text : Text} {s t : Template} :
      Switched names s t → Switched names (literal text s) (literal text t)
  | slot {name : Text} {escaped : Bool} {s t : Template} :
      Switched names s t → Switched names (slot name escaped s) (slot name escaped t)
  | switch {name : Text} {escaped : Bool} {s t : Template} : name ∈ names →
      Switched names s t → Switched names (slot name escaped s) (slot name (!escaped) t)
  | block {name : Text} {inverted : Bool} {inner body s t : Template} :
      Switched names inner body → Switched names s t →
      Switched names (block name inverted inner s) (block name inverted body t)

theorem Switched.evaluate_eq {names : List Text} {s t : Template} (switched : Switched names s t)
    {answer : Text → Except EvaluationError Values}
    (notText : ∀ name ∈ names, ∀ values, answer name = .ok values →
      ∀ value ∈ values.head?, value.text? = none) :
    s.evaluate answer = t.evaluate answer := by
  induction switched with
  | nil => rfl
  | literal _ ih => simp only [evaluate, ih]
  | slot _ ih => simp only [evaluate, ih]
  | @switch name escaped s t member _ ih =>
    simp only [evaluate, ih]
    cases answered : answer name with
    | error error => rfl
    | ok values =>
      have written := values.shown_eq_of_not_text (notText name member values answered)
      simp only [Except.bind, written escaped (!escaped)]
  | block _ _ bodyIH ih => simp only [evaluate, bodyIH, ih]

/-- Every value but a text is written, with letters, digits, signs and points alone, so that
escaping does not change it, and is truthy unless it is `false`; of the texts, the empty one alone
is not truthy. In a template it makes no difference which slots are escaped, at any depth, if the
binds of those that are switched fail, have no values, or have a first value that is no text. -/
theorem render_switched :
    (∀ value : Value, value.text? = none → value.canonical ≠ [] ∧
      (∀ c ∈ value.canonical, Text.isBareChar c = true) ∧
      Text.escape value.canonical = value.canonical ∧
      (value.isTruthy = true ↔ value ≠ .boolean false)) ∧
    (∀ text : Text, (Value.text text).isTruthy = false ↔ text = []) ∧
    ∀ {names : List Text} {s t : Template}, Switched names s t →
      (∀ {State : Type} (resolve : Resolver State) (state : State), resolve.Steady state →
        (∀ name ∈ names, ∀ values, (resolve name state).1 = .ok values →
          ∀ value ∈ values.head?, value.text? = none) →
        (s.renderBy resolve state).1 = (t.renderBy resolve state).1) ∧
      (∀ {Context : Type} (registry : Registry Context) (context : Context),
        registry.IsContextual →
        (∀ name ∈ names, ∀ values, (registry.resolve context name).1 = .ok values →
          ∀ value ∈ values.head?, value.text? = none) →
        (s.render registry context).1 = (t.render registry context).1) := by
  refine ⟨?_, ?_, ?_⟩
  · intro value notText
    have bare := Value.isBare_canonical notText
    refine ⟨bare.nonempty, bare.chars, bare.escape_eq, ?_⟩
    have falsy := @Value.isTruthy_eq_false_iff value
    simpa [bare.nonempty] using not_congr falsy
  · intro text
    have falsy := @Value.isTruthy_eq_false_iff (.text text)
    simpa [Value.canonical] using falsy
  · intro names s t switched
    have rendered {State : Type} (resolve : Resolver State) (state : State)
        (steady : resolve.Steady state)
        (notText : ∀ name ∈ names, ∀ values, (resolve name state).1 = .ok values →
          ∀ value ∈ values.head?, value.text? = none) :
        (s.renderBy resolve state).1 = (t.renderBy resolve state).1 := by
      simp only [renderBy_of_answers _ steady]
      exact switched.evaluate_eq notText
    refine ⟨rendered, ?_⟩
    intro Context registry context contextual notText
    exact rendered (Registry.resolver context) registry (contextual.steady context) notText

/-- An infinity; and a date, the truth value `false`, and a name that is not registered. -/
theorem render_switched_date :
    let infinity := Value.number ⟨0xFFF0000000000000⟩
    let s := block ['d'] false (slot ['d'] true (slot ['x'] false nil)) (slot ['b'] true nil)
    let t := block ['d'] false (slot ['d'] false (slot ['x'] true nil)) (slot ['b'] false nil)
    let registry : Registry Unit := Registry.register
      (Registry.register {} ['b'] (.single (.boolean false))) ['d']
      (.single (.date ⟨-44, 3, 15, by decide, by decide⟩))
    infinity.canonical = "-Infinity".toList ∧
      Text.escape infinity.canonical = infinity.canonical ∧ infinity.isTruthy = true ∧
      registry.IsContextual ∧ (s.render registry ()).1 = .ok "-0044-03-15false".toList ∧
      (s.render registry ()).1 = (t.render registry ()).1 := by
  intro infinity s t registry
  obtain ⟨_, _, unchanged, truthy⟩ := render_switched.1 infinity rfl
  have contextual : registry.IsContextual :=
    (Registry.isContextual_empty.register _ fun _ _ _ => rfl).register _ fun _ _ _ => rfl
  have switched : Switched [['b'], ['d'], ['x']] s t :=
    .block (.switch (by simp) (.switch (by simp) .nil)) (.switch (by simp) .nil)
  have notText : ∀ name ∈ [['b'], ['d'], ['x']], ∀ values,
      (registry.resolve () name).1 = .ok values → ∀ value ∈ values.head?, value.text? = none := by
    simp only [List.forall_mem_cons]
    refine ⟨?_, ?_, ?_, List.forall_mem_nil _⟩
    · rintro _ ⟨⟩ _ ⟨⟩
      rfl
    · rintro _ ⟨⟩ _ ⟨⟩
      rfl
    · rintro _ ⟨⟩ _ ⟨⟩
  have same := (render_switched.2.2 switched).2 registry () contextual notText
  exact ⟨by decide +kernel, unchanged, truthy.mpr (by simp [infinity]), contextual,
    by decide +kernel, same⟩

end Template

end QueryTemplate
