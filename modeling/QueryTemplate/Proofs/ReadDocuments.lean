import QueryTemplate.Json.Reader
import QueryTemplate.Proofs.Addresses

/-! The documents that JSON text is read as have objects with different keys. A key that comes again
takes the place it has, so every lexeme keeps the keys of what is open apart. -/

set_option autoImplicit false

namespace QueryTemplate

/-! ## Stored members -/

theorem Members.map_fst_put (key : Text) (document : Document) (members : Members) :
    (members.put key document).map Prod.fst =
      if key ∈ members.map Prod.fst then members.map Prod.fst
      else members.map Prod.fst ++ [key] := by
  induction members with
  | nil => rfl
  | cons member members ih =>
    obtain ⟨own, below⟩ := member
    by_cases same : own = key
    · simp [put, same]
    · by_cases inside : key ∈ members.map Prod.fst
      · rw [if_pos inside] at ih
        simp [put, same, ih, inside]
      · rw [if_neg inside] at ih
        simp [put, same, ih, inside, Ne.symm same]

theorem Members.mem_put {key : Text} {document : Document} {members : Members}
    {member : Text × Document} (stored : member ∈ members.put key document) :
    member = (key, document) ∨ member ∈ members := by
  induction members with
  | nil => exact .inl (List.mem_singleton.mp stored)
  | cons first members ih =>
    obtain ⟨own, below⟩ := first
    rw [put] at stored
    split at stored
    · rename_i same
      subst same
      rcases List.mem_cons.mp stored with new | old
      · exact .inl new
      · exact .inr (List.mem_cons_of_mem _ old)
    · rcases List.mem_cons.mp stored with rfl | later
      · exact .inr List.mem_cons_self
      · exact (ih later).imp_right (List.mem_cons_of_mem _)

/-- That members have different keys, and that the objects in their documents do so too. -/
structure Members.KeysDistinct (members : Members) : Prop where
  keys : (members.map Prod.fst).Nodup
  documents : ∀ member ∈ members, member.2.KeysDistinct

theorem Members.keysDistinct_nil : Members.KeysDistinct [] :=
  ⟨List.nodup_nil, by simp⟩

theorem Members.KeysDistinct.put {members : Members} (distinct : members.KeysDistinct)
    (key : Text) {document : Document} (stored : document.KeysDistinct) :
    Members.KeysDistinct (members.put key document) := by
  constructor
  · rw [map_fst_put]
    split
    · exact distinct.keys
    · rename_i missing
      rw [List.nodup_append]
      refine ⟨distinct.keys, List.nodup_singleton key, ?_⟩
      intro first member second last same
      cases List.mem_singleton.mp last
      exact missing (same ▸ member)
  · intro member inside
    rcases mem_put inside with rfl | old
    · exact stored
    · exact distinct.documents member old

namespace Json

/-! ## Lexemes -/

/-- That a lexeme carries no document with elements of its own. -/
def Lexeme.IsSimple : Lexeme → Prop
  | .scalar document => document.isComplex = false
  | _ => True

theorem NumberText.isComplex_of_document? {number : NumberText} {document : Document}
    (read : number.document? = some document) : document.isComplex = false := by
  unfold document? at read
  split at read
  · cases read
    rfl
  · obtain ⟨_, _, rfl⟩ := Option.map_eq_some_iff.mp read
    rfl

theorem Lexeme.isComplex_of_word? {letters : Text} {document : Document}
    (read : word? letters = some document) : document.isComplex = false := by
  unfold word? at read
  split at read
  · cases read
    rfl
  · split at read
    · cases read
      rfl
    · split at read
      · cases read
        rfl
      · cases read

theorem Lexeme.isSimple_of_mark? {c : Char} {lexeme : Lexeme} (read : mark? c = some lexeme) :
    lexeme.IsSimple := by
  unfold mark? at read
  split at read
  all_goals
    cases read
    try trivial

theorem Lexeme.isSimple_of_read? {c : Char} {rest behind : Text} {lexeme : Lexeme}
    (read : read? c rest = some (lexeme, behind)) : lexeme.IsSimple := by
  unfold read? at read
  split at read
  · rename_i mark
    cases read
    exact isSimple_of_mark? mark
  · split at read
    · obtain ⟨⟨_, _⟩, _, same⟩ := Option.map_eq_some_iff.mp read
      cases same
      trivial
    · split at read
      · obtain ⟨document, number, same⟩ := Option.map_eq_some_iff.mp read
        cases same
        obtain ⟨_, _, value⟩ := Option.bind_eq_some_iff.mp number
        exact NumberText.isComplex_of_document? value
      · obtain ⟨document, word, same⟩ := Option.map_eq_some_iff.mp read
        cases same
        exact isComplex_of_word? word

theorem Lexeme.isSimple_of_ofText? {text : Text} {lexemes : List Lexeme}
    (read : ofText? text = some lexemes) : ∀ lexeme ∈ lexemes, lexeme.IsSimple := by
  fun_induction ofText? text generalizing lexemes with
  | case1 =>
    cases read
    simp
  | case2 c rest blank ih => exact ih read
  | case3 => cases read
  | case4 c rest visible lexeme behind first ih =>
    obtain ⟨others, readOthers, rfl⟩ := Option.map_eq_some_iff.mp read
    exact List.forall_mem_cons.mpr ⟨isSimple_of_read? first, ih readOthers⟩

/-! ## States -/

def Frame.KeysDistinct : Frame → Prop
  | .items before => ∀ item ∈ before, item.KeysDistinct
  | .member before _ => before.KeysDistinct

namespace State

def KeysDistinct : State → Prop
  | value stack | firstItem stack => ∀ frame ∈ stack, frame.KeysDistinct
  | key stack before _ | colon stack before _ =>
    (∀ frame ∈ stack, frame.KeysDistinct) ∧ before.KeysDistinct
  | after stack document => (∀ frame ∈ stack, frame.KeysDistinct) ∧ document.KeysDistinct

theorem keysDistinct_start {stack : List Frame} {lexeme : Lexeme} {next : State}
    (stacked : ∀ frame ∈ stack, frame.KeysDistinct) (simple : lexeme.IsSimple)
    (taken : start stack lexeme = some next) : next.KeysDistinct := by
  cases lexeme with
  | scalar document =>
    cases taken
    exact ⟨stacked, Document.keysDistinct_of_simple simple⟩
  | string text =>
    cases taken
    exact ⟨stacked, Document.keysDistinct_of_simple rfl⟩
  | openArray =>
    obtain ⟨_, same⟩ := Option.ite_none_right_eq_some.mp taken
    cases same
    exact stacked
  | openObject =>
    obtain ⟨_, same⟩ := Option.ite_none_right_eq_some.mp taken
    cases same
    exact ⟨stacked, Members.keysDistinct_nil⟩
  | _ => cases taken

theorem keysDistinct_step {state next : State} {lexeme : Lexeme}
    (distinct : state.KeysDistinct) (simple : lexeme.IsSimple)
    (taken : state.step lexeme = some next) : next.KeysDistinct := by
  unfold step at taken
  split at taken
  · exact keysDistinct_start distinct simple taken
  · cases taken
    exact ⟨distinct, Document.keysDistinct_array (by simp)⟩
  · refine keysDistinct_start ?_ simple taken
    exact List.forall_mem_cons.mpr ⟨by simp [Frame.KeysDistinct], distinct⟩
  · cases taken
    exact distinct
  · cases taken
    obtain ⟨stacked, members⟩ := distinct
    exact ⟨stacked, Document.keysDistinct_object members.keys members.documents⟩
  · cases taken
    obtain ⟨stacked, members⟩ := distinct
    exact List.forall_mem_cons.mpr ⟨members, stacked⟩
  · cases taken
    obtain ⟨stacked, document⟩ := distinct
    obtain ⟨items, stacked⟩ := List.forall_mem_cons.mp stacked
    exact List.forall_mem_cons.mpr ⟨List.forall_mem_cons.mpr ⟨document, items⟩, stacked⟩
  · cases taken
    obtain ⟨stacked, document⟩ := distinct
    obtain ⟨items, stacked⟩ := List.forall_mem_cons.mp stacked
    refine ⟨stacked, Document.keysDistinct_array ?_⟩
    intro item member
    exact List.forall_mem_cons.mpr ⟨document, items⟩ item (List.mem_reverse.mp member)
  · cases taken
    obtain ⟨stacked, document⟩ := distinct
    obtain ⟨members, stacked⟩ := List.forall_mem_cons.mp stacked
    exact ⟨stacked, Members.KeysDistinct.put members _ document⟩
  · rename_i before text stack last
    cases taken
    obtain ⟨stacked, document⟩ := distinct
    obtain ⟨members, stacked⟩ := List.forall_mem_cons.mp stacked
    have all := Members.KeysDistinct.put members text document
    exact ⟨stacked, Document.keysDistinct_object all.keys all.documents⟩
  · cases taken

theorem keysDistinct_foldlM {lexemes : List Lexeme} {state last : State}
    (distinct : state.KeysDistinct) (simple : ∀ lexeme ∈ lexemes, lexeme.IsSimple)
    (taken : lexemes.foldlM step state = some last) : last.KeysDistinct := by
  induction lexemes generalizing state with
  | nil =>
    cases taken
    exact distinct
  | cons lexeme lexemes ih =>
    obtain ⟨first, others⟩ := List.forall_mem_cons.mp simple
    rw [List.foldlM_cons] at taken
    obtain ⟨next, stepped, taken⟩ := Option.bind_eq_some_iff.mp taken
    exact ih (keysDistinct_step distinct first stepped) others taken

end State

theorem keysDistinct_of_read? {text : Text} {document : Document}
    (read : read? text = some document) : document.KeysDistinct := by
  obtain ⟨lexemes, lexed, read⟩ := Option.bind_eq_some_iff.mp read
  obtain ⟨state, folded, result⟩ := Option.bind_eq_some_iff.mp read
  have start : (State.value []).KeysDistinct := by simp [State.KeysDistinct]
  have distinct := State.keysDistinct_foldlM start (Lexeme.isSimple_of_ofText? lexed) folded
  unfold State.result? at result
  split at result
  · cases result
    exact distinct.2
  · cases result

end Json

end QueryTemplate
