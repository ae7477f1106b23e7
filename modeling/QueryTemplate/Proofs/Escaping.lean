import Mathlib.Data.List.TakeWhile
import QueryTemplate.Proofs.Quotes

/-! Escaping, character by character. Nothing that it writes has to be escaped again, so it changes a
text exactly if it does not keep it. -/

set_option autoImplicit false

namespace QueryTemplate

namespace Text

theorem needsEscape_of_mem_escape {text : Text} {c : Char} (member : c ∈ escape text) :
    needsEscape c = false := by
  have clear : (escape text).filter needsEscape = [] := quotes_escape text
  simpa using List.filter_eq_nil_iff.mp clear c member

theorem not_mem_escape {c : Char} (needs : needsEscape c = true) (text : Text) :
    c ∉ escape text := by
  intro member
  rw [needsEscape_of_mem_escape member] at needs
  cases needs

theorem escape_eq_self_iff {text : Text} :
    escape text = text ↔ ∀ c ∈ text, needsEscape c = false := by
  constructor
  · intro same c member
    rw [← same] at member
    exact needsEscape_of_mem_escape member
  · exact escape_of_plain

theorem isPlain_iff {text : Text} : isPlain text = true ↔ ∀ c ∈ text, needsEscape c = false := by
  rw [isPlain, List.isEmpty_iff, unplainPart, List.dropWhile_eq_nil_iff]
  simp

theorem kept_escaping_iff {text : Text} :
    (escaping text).kept = true ↔ ∀ c ∈ text, needsEscape c = false := by
  rw [← isPlain_iff, escaping]
  split
  · rename_i plain
    simp [plain]
  · rename_i replaced
    simp [replaced]

theorem escapeChar_eq (c : Char) :
    escapeChar c =
      if c = '"' then "<DQUOTE>".toList
      else if c = '\'' then "<SQUOTE>".toList
      else if c = '&' then "<AMP>".toList
      else [c] := by
  unfold escapeChar
  split
  · rfl
  · rfl
  · rfl
  · rename_i notDouble notSingle notAmpersand
    rw [if_neg notDouble, if_neg notSingle, if_neg notAmpersand]

/-- Escaping writes a word for each quote and each ampersand, and all else as it is. It makes no
difference whether a text is kept, or its first part copied, so texts are escaped in parts; what is
written has neither quotes nor ampersands, and is not changed by escaping it again. A text is kept
exactly if escaping does not change it. -/
theorem escape_charwise (a b : Text) :
    (escape a = a.flatMap fun c =>
      if c = '"' then "<DQUOTE>".toList
      else if c = '\'' then "<SQUOTE>".toList
      else if c = '&' then "<AMP>".toList
      else [c]) ∧
    plainPart a ++ (unplainPart a).flatMap escapeChar = escape a ∧
    escape (a ++ b) = escape a ++ escape b ∧
    ('"' ∉ escape a ∧ '\'' ∉ escape a ∧ '&' ∉ escape a) ∧
    escape (escape a) = escape a ∧
    ((escaping a).kept = true ↔ (escaping a).text = a) := by
  refine ⟨?_, ?_, escape_append a b, ⟨?_, ?_, ?_⟩, ?_, ?_⟩
  · rw [escape_eq_flatMap]
    exact congrArg (a.flatMap ·) (funext escapeChar_eq)
  · rw [plainPart_append_flatMap, escape_eq_flatMap]
  · exact not_mem_escape rfl a
  · exact not_mem_escape rfl a
  · exact not_mem_escape rfl a
  · exact escape_eq_self_iff.mpr fun _ member => needsEscape_of_mem_escape member
  · exact kept_escaping_iff.trans escape_eq_self_iff.symm

end Text

end QueryTemplate
