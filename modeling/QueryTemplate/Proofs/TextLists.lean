import Mathlib.Data.List.Induction
import QueryTemplate.Text.Basic

/-! Lists of texts of which only the members count: with repetitions left out, and sorted. -/

set_option autoImplicit false

namespace QueryTemplate

namespace Text

theorem eraseDups_concat (texts : List Text) (text : Text) :
    (texts ++ [text]).eraseDups =
      if text ∈ texts.eraseDups then texts.eraseDups else texts.eraseDups ++ [text] := by
  rw [List.eraseDups_append]
  by_cases member : text ∈ texts
  · simp [List.removeAll, List.mem_eraseDups, member]
  · simp [List.removeAll, List.mem_eraseDups, member, List.eraseDups_cons]

theorem nodup_eraseDups (texts : List Text) : texts.eraseDups.Nodup := by
  induction texts using List.reverseRecOn with
  | nil => exact List.nodup_nil
  | append_singleton texts text ih =>
    rw [eraseDups_concat]
    split
    · exact ih
    · rename_i absent
      exact List.nodup_append.mpr ⟨ih, by simp, by
        rintro other member _ last rfl
        exact absent (List.mem_singleton.mp last ▸ member)⟩

theorem mergeSort_eq_of_perm {first second : List Text} (perm : first.Perm second) :
    first.mergeSort atMost = second.mergeSort atMost := by
  have sorted (texts : List Text) :
      (texts.mergeSort atMost).Pairwise fun one other => atMost one other = true :=
    List.pairwise_mergeSort atMost_trans atMost_total texts
  refine List.Perm.eq_of_pairwise (fun _ _ _ _ => eq_of_atMost) (sorted first) (sorted second) ?_
  exact (List.mergeSort_perm first _).trans (perm.trans (List.mergeSort_perm second _).symm)

end Text

end QueryTemplate
