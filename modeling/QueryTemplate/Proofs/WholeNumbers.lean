import QueryTemplate.Proofs.Blame
import QueryTemplate.Proofs.Rounding

/-! How the whole numbers of a document are written. Those of the signed words keep their digits.
The others become binary numbers, so they are rounded to multiples of 2048 and written with a
point. -/

set_option autoImplicit false

namespace QueryTemplate

namespace Text

theorem decimal_injective : Function.Injective decimal :=
  Function.LeftInverse.injective ofDigits_decimal

theorem mem_signedDecimal {i : Int} {c : Char} (member : c ∈ signedDecimal i) :
    c = '-' ∨ c.isDigit = true := by
  cases i with
  | ofNat n => exact .inr (isDigit_of_mem_decimal member)
  | negSucc n => exact (List.mem_cons.mp member).imp_right isDigit_of_mem_decimal

private theorem decimal_ne_minus_cons (n : Nat) (rest : Text) : decimal n ≠ '-' :: rest := by
  intro same
  have digit : '-'.isDigit = true := isDigit_of_mem_decimal (same ▸ List.mem_cons_self)
  cases digit

theorem signedDecimal_injective : Function.Injective signedDecimal := by
  intro i j same
  cases i with
  | ofNat n =>
    cases j with
    | ofNat m => exact congrArg Int.ofNat (decimal_injective same)
    | negSucc m => exact absurd same (decimal_ne_minus_cons _ _)
  | negSucc n =>
    cases j with
    | ofNat m => exact absurd same.symm (decimal_ne_minus_cons _ _)
    | negSucc m =>
      have digits := decimal_injective (List.cons.inj same).2
      exact congrArg Int.negSucc (Nat.succ.inj digits)

theorem needsEscape_of_isDigit {c : Char} (digit : c.isDigit = true) : needsEscape c = false := by
  rw [Bool.eq_false_iff]
  intro needs
  simp only [needsEscape, Bool.or_eq_true, beq_iff_eq] at needs
  rcases needs with (rfl | rfl) | rfl <;> cases digit

end Text

theorem DocumentBind.answer_path {name expression : Text} {path : PathExpression}
    {document : Document} (parsed : PathExpression.parse expression = .ok path)
    (led : path.isSelf = true ∨ document.isComplex = true) (earlier : List Document) :
    (DocumentBind.path name expression).parameter.answer earlier document =
      .ok ((path.select document).map Document.value) := by
  change PathBind.resolve ⟨name, expression⟩ document = _
  rcases led with isSelf | isComplex
  · simp [PathBind.resolve, PathBind.compiled, parsed, isSelf]
  · simp [PathBind.resolve, PathBind.compiled, parsed, isComplex]

theorem Template.evaluate_slot_nil (answer : Text → Except EvaluationError Values) (name : Text)
    (escaped : Bool) :
    (slot name escaped nil).evaluate answer = (answer name).map (·.shown escaped) := by
  rw [evaluate]
  cases answer name with
  | error error => rfl
  | ok values => exact congrArg Except.ok (List.append_nil _)

theorem Whole.ext {n m : Whole} (same : n.val = m.val) : n = m := by
  cases n
  cases m
  cases same
  rfl

namespace Document

variable {n : Whole}

theorem value_whole_of_lt (signed : n.val < 0x8000000000000000) :
    (whole n).value = .integer (Int64.ofInt n.val) ∧ (Int64.ofInt n.val).toInt = n.val := by
  refine ⟨by rw [value, if_pos signed], Int64.toInt_ofInt_of_le ?_ ?_⟩
  · exact n.lower
  · exact signed

theorem canonical_whole_of_lt (signed : n.val < 0x8000000000000000) :
    (whole n).value.canonical = Text.signedDecimal n.val := by
  obtain ⟨value, same⟩ := value_whole_of_lt signed
  rw [value, Value.canonical, same]

theorem value_whole_of_le (unsigned : 0x8000000000000000 ≤ n.val) :
    (whole n).value = .number (Binary64.ofInt n.val) := by
  rw [value, if_neg (Int.not_lt.mpr unsigned)]

theorem canonical_whole_of_le (unsigned : 0x8000000000000000 ≤ n.val) {count : Nat}
    (nearest : Binary64.IsNearest 2048 n.val.toNat count) :
    (whole n).value.canonical = Text.decimal (2048 * count) ++ ['.', '0'] := by
  have whole : n.val = (n.val.toNat : Int) := by omega
  have upper := n.upper
  rw [value_whole_of_le unsigned, Value.canonical, whole,
    (Binary64.isNearest_iff (by decide)).mp nearest]
  apply Binary64.canonical_ofInt 11
  · unfold Binary64.hiddenBit
    omega
  · unfold Binary64.hiddenBit
    omega
  · decide

theorem exists_isNearest (n : Whole) : ∃ count, Binary64.IsNearest 2048 n.val.toNat count :=
  ⟨_, Binary64.isNearest_roundHalfEven (by decide) n.val.toNat⟩

private theorem pointed_ne_signedDecimal (digits : Text) (i : Int) :
    digits ++ ['.', '0'] ≠ Text.signedDecimal i := by
  intro same
  have point : '.' ∈ Text.signedDecimal i := same ▸ by simp
  rcases Text.mem_signedDecimal point with minus | digit
  · cases minus
  · cases digit

theorem canonical_whole_eq_digits_iff :
    (whole n).value.canonical = Text.signedDecimal n.val ↔ n.val < 0x8000000000000000 := by
  refine ⟨?_, canonical_whole_of_lt⟩
  intro same
  by_contra signed
  obtain ⟨count, nearest⟩ := exists_isNearest n
  rw [canonical_whole_of_le (Int.not_lt.mp signed) nearest] at same
  exact pointed_ne_signedDecimal _ _ same

/-- Different numbers are written alike if they are rounded to one multiple. -/
theorem canonical_whole_eq_iff {m : Whole} :
    (whole n).value.canonical = (whole m).value.canonical ↔
      n = m ∨ 0x8000000000000000 ≤ n.val ∧ 0x8000000000000000 ≤ m.val ∧
        ∃ count, Binary64.IsNearest 2048 n.val.toNat count ∧
          Binary64.IsNearest 2048 m.val.toNat count := by
  obtain ⟨count, nearest⟩ := exists_isNearest n
  obtain ⟨other, nearestOther⟩ := exists_isNearest m
  constructor
  · intro same
    rcases Int.lt_or_le n.val 0x8000000000000000 with signed | unsigned
    · rw [canonical_whole_of_lt signed] at same
      rcases Int.lt_or_le m.val 0x8000000000000000 with signedOther | unsignedOther
      · rw [canonical_whole_of_lt signedOther] at same
        exact .inl (Whole.ext (Text.signedDecimal_injective same))
      · rw [canonical_whole_of_le unsignedOther nearestOther] at same
        exact absurd same.symm (pointed_ne_signedDecimal _ _)
    · rw [canonical_whole_of_le unsigned nearest] at same
      rcases Int.lt_or_le m.val 0x8000000000000000 with signedOther | unsignedOther
      · rw [canonical_whole_of_lt signedOther] at same
        exact absurd same (pointed_ne_signedDecimal _ _)
      · rw [canonical_whole_of_le unsignedOther nearestOther] at same
        have multiples := Text.decimal_injective (List.append_cancel_right same)
        obtain rfl : count = other := by omega
        exact .inr ⟨unsigned, unsignedOther, count, nearest, nearestOther⟩
  · rintro (rfl | ⟨unsigned, unsignedOther, count, nearest, nearestOther⟩)
    · rfl
    · rw [canonical_whole_of_le unsigned nearest, canonical_whole_of_le unsignedOther nearestOther]

theorem escape_canonical_whole (n : Whole) :
    Text.escape (whole n).value.canonical = (whole n).value.canonical := by
  apply Text.escape_of_plain
  intro c member
  rcases Int.lt_or_le n.val 0x8000000000000000 with signed | unsigned
  · rw [canonical_whole_of_lt signed] at member
    rcases Text.mem_signedDecimal member with rfl | digit
    · rfl
    · exact Text.needsEscape_of_isDigit digit
  · obtain ⟨count, nearest⟩ := exists_isNearest n
    rw [canonical_whole_of_le unsigned nearest] at member
    rcases List.mem_append.mp member with digit | point
    · exact Text.needsEscape_of_isDigit (Text.isDigit_of_mem_decimal digit)
    · simp only [List.mem_cons, List.not_mem_nil, or_false] at point
      rcases point with rfl | rfl <;> rfl

/-- A slot that is bound by a path to whole numbers writes the first of them. -/
theorem render_slot_whole {binds : List DocumentBind} {document : Document}
    {name expression : Text} {path : PathExpression} {others : List Document}
    (registered : DocumentBind.registered? binds name = some (.path name expression))
    (parsed : PathExpression.parse expression = .ok path)
    (selected : path.select document = whole n :: others)
    (led : path.isSelf = true ∨ document.isComplex = true) (escaped : Bool) :
    ((Template.slot name escaped .nil).render (Registry.ofBinds binds) document).1 =
      .ok (whole n).value.canonical := by
  have answered : ((Registry.ofBinds binds).resolve document name).1 =
      .ok ((whole n :: others).map value) := by
    rw [Registry.resolve_ofBinds registered, DocumentBind.answer_path parsed led, selected]
  have shown : Values.shown escaped ((whole n :: others).map value) =
      (whole n).value.canonical := by
    cases escaped with
    | false => rfl
    | true => exact escape_canonical_whole n
  rw [Template.render_ofBinds, Template.evaluate_slot_nil, answered]
  exact congrArg Except.ok shown

/-- Whole numbers are written with their digits as far as the signed words reach. Beyond, they are
rounded to multiples of 2048, and different ones may be written alike. -/
theorem canonical_whole (n : Whole) :
    let value := (whole n).value
    (n.val < 0x8000000000000000 →
        value = .integer (Int64.ofInt n.val) ∧ (Int64.ofInt n.val).toInt = n.val) ∧
      (0x8000000000000000 ≤ n.val → value = .number (Binary64.ofInt n.val) ∧
        ∀ count, Binary64.IsNearest 2048 n.val.toNat count →
          value.canonical = Text.decimal (2048 * count) ++ ['.', '0']) ∧
      (value.canonical = Text.signedDecimal n.val ↔ n.val < 0x8000000000000000) ∧
      (∀ m : Whole, value.canonical = (whole m).value.canonical ↔
        n = m ∨ 0x8000000000000000 ≤ n.val ∧ 0x8000000000000000 ≤ m.val ∧
          ∃ count, Binary64.IsNearest 2048 n.val.toNat count ∧
            Binary64.IsNearest 2048 m.val.toNat count) ∧
      ∀ binds document name expression path others escaped,
        DocumentBind.registered? binds name = some (.path name expression) →
          PathExpression.parse expression = .ok path →
          path.select document = whole n :: others →
          path.isSelf = true ∨ document.isComplex = true →
          ((Template.slot name escaped .nil).render (Registry.ofBinds binds) document).1 =
            .ok value.canonical := by
  intro value
  refine ⟨value_whole_of_lt, ?_, canonical_whole_eq_digits_iff, ?_, ?_⟩
  · intro unsigned
    exact ⟨value_whole_of_le unsigned, fun count => canonical_whole_of_le unsigned⟩
  · intro m
    exact canonical_whole_eq_iff
  · intro binds document name expression path others escaped registered parsed selected led
    exact render_slot_whole registered parsed selected led escaped

/-- An identifier beyond the signed words, and the last two numbers of all. -/
theorem canonical_whole_unsigned :
    let node : Document := .whole ⟨9223372036854775809, by decide, by decide⟩
    let last : Document := .whole ⟨18446744073709551615, by decide, by decide⟩
    let other : Document := .whole ⟨18446744073709551614, by decide, by decide⟩
    (∀ i, node.value ≠ .integer i) ∧
      ((Template.slot ['n'] true .nil).render (.ofBinds [.path ['n'] "ID".toList])
          (.object [("ID".toList, node)])).1 = .ok "9223372036854775808.0".toList ∧
      "9223372036854775808.0".toList ≠ Text.signedDecimal 9223372036854775809 ∧
      last.value.canonical = other.value.canonical := by
  intro node last other
  refine ⟨?_, by decide +kernel, by decide +kernel, by decide +kernel⟩
  intro i integer
  rw [value_whole_of_le (by decide)] at integer
  cases integer

end Document

end QueryTemplate
