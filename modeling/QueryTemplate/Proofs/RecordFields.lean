import QueryTemplate.Proofs.Merging
import QueryTemplate.Proofs.TagForm
import QueryTemplate.Settings.Decode

/-! Records that are given field by field. Where the keys of an object are different, no field is
given twice, so that each of them has what lies at its key, or its default if nothing does. -/

set_option autoImplicit false

namespace QueryTemplate

/-! ## Fields one after the other -/

section

variable {α : Type} {set : α → Text → Document → Except Mismatch α}

theorem setFields_cons_eq_ok {record result : α} {key : Text} {document : Document}
    {members : Members}
    (done : setFields set record ((key, document) :: members) = .ok result) :
    ∃ next, set record key document = .ok next ∧ setFields set next members = .ok result := by
  rw [setFields] at done
  cases given : set record key document with
  | error mismatch =>
    rw [given] at done
    cases done
  | ok next =>
    rw [given] at done
    exact ⟨next, rfl, done⟩

theorem exists_member_of_setFields_eq_error {record : α} {members : Members} {mismatch : Mismatch}
    (failed : setFields set record members = .error mismatch) :
    ∃ member ∈ members, ∃ before, set before member.1 member.2 = .error mismatch := by
  induction members generalizing record with
  | nil => cases failed
  | cons member members ih =>
    obtain ⟨key, document⟩ := member
    rw [setFields] at failed
    cases given : set record key document with
    | error refused =>
      rw [given] at failed
      cases failed
      exact ⟨(key, document), List.mem_cons_self, record, given⟩
    | ok next =>
      rw [given] at failed
      obtain ⟨member, inside, before, refused⟩ := ih failed
      exact ⟨member, List.mem_cons_of_mem _ inside, before, refused⟩

end

/-! ## Fields of records -/

/-- A field of a record, with the key under which documents give it. -/
structure RecordField (α : Type) where
  key : Text
  {Value : Type}
  read : Document → Except Mismatch Value
  value : α → Value
  put : α → Value → α
  /-- What is read for the field where nothing is given. -/
  standard : Document

/-- That a field is given at its key, and starts as what is read by default. -/
structure RecordField.IsGiven {α : Type} (field : RecordField α)
    (set : α → Text → Document → Except Mismatch α) (start : α) : Prop where
  set_eq : ∀ record document,
    set record field.key document = (field.read document).map (field.put record)
  value_put : ∀ record value, field.value (field.put record value) = value
  standard : field.read field.standard = .ok (field.value start)

theorem RecordField.IsGiven.exists_value {α : Type} {field : RecordField α}
    {set : α → Text → Document → Except Mismatch α} {start record next : α}
    {document : Document} (given : field.IsGiven set start)
    (done : set record field.key document = .ok next) :
    ∃ value, field.read document = .ok value ∧ field.put record value = next :=
  ok_of_map_eq_ok ((given.set_eq record document).symm.trans done)

/-- That a record consists of some fields, each of them given at its own key and nowhere else. -/
structure AreFields {α : Type} (set : α → Text → Document → Except Mismatch α) (start : α)
    (keys : List Text) (fields : List (RecordField α)) : Prop where
  keys_eq : fields.map (·.key) = keys
  distinct : keys.Nodup
  given : ∀ field ∈ fields, field.IsGiven set start
  unknown : ∀ record key document, key ∉ keys → set record key document = .ok record
  apart : ∀ field ∈ fields, ∀ other ∈ fields, field.key ≠ other.key →
    ∀ record value, other.value (field.put record value) = other.value record
  ext : ∀ record other, (∀ field ∈ fields, field.value record = field.value other) →
    record = other

/-- That a record has what entries give, and its defaults where nothing is given. -/
def TakenFrom {α : Type} (fields : List (RecordField α)) (record : α)
    (entries : Text → Option Document) : Prop :=
  ∀ field ∈ fields,
    field.read ((entries field.key).getD field.standard) = .ok (field.value record)

/-- The members that give a record its defaults. -/
def standards {α : Type} (fields : List (RecordField α)) : Members :=
  fields.map fun field => (field.key, field.standard)

namespace AreFields

variable {α : Type} {set : α → Text → Document → Except Mismatch α} {start : α}
  {keys : List Text} {fields : List (RecordField α)} (are : AreFields set start keys fields)

include are

theorem mem_keys_iff {key : Text} : key ∈ keys ↔ ∃ field ∈ fields, field.key = key := by
  rw [← are.keys_eq]
  exact List.mem_map

theorem set_eq_error {record : α} {key : Text} {document : Document} {mismatch : Mismatch}
    (refused : set record key document = .error mismatch) :
    ∃ field ∈ fields, field.key = key ∧ field.read document = .error mismatch := by
  by_cases known : key ∈ keys
  · obtain ⟨field, member, rfl⟩ := are.mem_keys_iff.mp known
    have failed := ((are.given field member).set_eq record document).symm.trans refused
    exact ⟨field, member, rfl, error_of_map_eq_error failed⟩
  · cases (are.unknown record key document known).symm.trans refused

theorem nodup_standards : ((standards fields).map Prod.fst).Nodup := by
  have same : (standards fields).map Prod.fst = keys := by
    rw [standards, List.map_map]
    exact are.keys_eq
  rw [same]
  exact are.distinct

theorem get?_standards {field : RecordField α} (member : field ∈ fields) :
    (standards fields).get? field.key = some field.standard :=
  (Members.get?_eq_some_iff_mem are.nodup_standards).mpr (List.mem_map.mpr ⟨field, member, rfl⟩)

section

variable {field : RecordField α} (member : field ∈ fields)

include member

theorem read_of_set {record next : α} {document : Document}
    (done : set record field.key document = .ok next) :
    field.read document = .ok (field.value next) := by
  obtain ⟨value, read, rfl⟩ := (are.given field member).exists_value done
  rw [read, (are.given field member).value_put]

theorem value_of_set {record next : α} {key : Text} {document : Document}
    (done : set record key document = .ok next) (different : key ≠ field.key) :
    field.value next = field.value record := by
  by_cases known : key ∈ keys
  · obtain ⟨other, member', rfl⟩ := are.mem_keys_iff.mp known
    obtain ⟨value, _, rfl⟩ := (are.given other member').exists_value done
    exact are.apart other member' field member different record value
  · cases (are.unknown record key document known).symm.trans done
    rfl

theorem value_of_missing {record result : α} {members : Members}
    (done : setFields set record members = .ok result)
    (missing : members.get? field.key = none) : field.value result = field.value record := by
  induction members generalizing record with
  | nil =>
    cases done
    rfl
  | cons first members ih =>
    obtain ⟨next, step, done⟩ := setFields_cons_eq_ok done
    rw [Members.get?_cons] at missing
    split at missing
    · cases missing
    · rename_i different
      exact (ih done missing).trans (are.value_of_set member step different)

theorem read_get? {record result : α} {members : Members}
    (distinct : (members.map Prod.fst).Nodup)
    (done : setFields set record members = .ok result) {document : Document}
    (found : members.get? field.key = some document) :
    field.read document = .ok (field.value result) := by
  induction members generalizing record with
  | nil => cases found
  | cons first members ih =>
    obtain ⟨key, given⟩ := first
    obtain ⟨next, step, rest⟩ := setFields_cons_eq_ok done
    obtain ⟨missing, others⟩ := List.nodup_cons.mp distinct
    rw [Members.get?_cons] at found
    split at found
    · rename_i same
      subst same
      cases found
      rw [are.value_of_missing member rest (Members.get?_eq_none_iff.mpr missing)]
      exact are.read_of_set member step
    · exact ih others rest found

end

variable {record : α} {members : Members} (distinct : (members.map Prod.fst).Nodup)

include distinct

theorem takenFrom_of_setFields (done : setFields set start members = .ok record) :
    TakenFrom fields record (members.get? ·) := by
  intro field member
  dsimp only
  cases found : members.get? field.key with
  | none =>
    rw [are.value_of_missing member done found]
    exact (are.given field member).standard
  | some document => exact are.read_get? member distinct done found

/-- Giving the members of an object one after the other gives each field what lies at its key. -/
theorem setFields_eq_ok_iff :
    setFields set start members = .ok record ↔ TakenFrom fields record (members.get? ·) := by
  refine ⟨are.takenFrom_of_setFields distinct, fun taken => ?_⟩
  cases done : setFields set start members with
  | ok other =>
    have same : other = record := by
      refine are.ext other record fun field member => ?_
      exact Except.ok.inj
        ((are.takenFrom_of_setFields distinct done field member).symm.trans (taken field member))
    rw [same]
  | error mismatch =>
    obtain ⟨⟨key, entry⟩, inside, _, refused⟩ := exists_member_of_setFields_eq_error done
    obtain ⟨field, member, rfl, refused⟩ := are.set_eq_error refused
    have own := taken field member
    dsimp only at own
    rw [(Members.get?_eq_some_iff_mem distinct).mpr inside] at own
    cases refused.symm.trans own

end AreFields

end QueryTemplate
