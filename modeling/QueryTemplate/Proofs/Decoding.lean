import QueryTemplate.Proofs.RecordFields

/-! What settings a document holds. Settings are a record within a record, and show what lies at
their keys. What is reported as a mismatch is an entry of some setting that does not have the type
of the setting. -/

set_option autoImplicit false

namespace QueryTemplate

/-! ## Types -/

namespace Document

theorem asBoolean_eq_ok_iff {document : Document} {b : Bool} :
    document.asBoolean = .ok b ↔ document = .boolean b := by
  cases document <;> simp [asBoolean]

theorem asString_eq_ok_iff {document : Document} {t : Text} :
    document.asString = .ok t ↔ document = .string t := by
  cases document <;> simp [asString]

theorem asBoolean_eq_error {document : Document} {mismatch : Mismatch}
    (refused : document.asBoolean = .error mismatch) :
    (¬ ∃ b, document = .boolean b) ∧ mismatch = .wrongType document .boolean := by
  cases document with
  | boolean => cases refused
  | _ =>
    cases refused
    simp

theorem asString_eq_error {document : Document} {mismatch : Mismatch}
    (refused : document.asString = .error mismatch) :
    (¬ ∃ t, document = .string t) ∧ mismatch = .wrongType document .string := by
  cases document with
  | string => cases refused
  | _ =>
    cases refused
    simp

theorem asCapacity_eq_ok_iff {document : Document} {n : UInt64} :
    document.asCapacity = .ok n ↔ ∃ w : Whole, document = .whole w ∧ w.val = n.toNat := by
  cases document with
  | whole w =>
    have upper := w.upper
    by_cases natural : 0 ≤ w.val
    · have small : w.val.toNat < UInt64.size := by
        simp only [UInt64.size]
        omega
      simp only [asCapacity, if_pos natural, Except.ok.injEq, whole.injEq, exists_eq_left',
        ← UInt64.toNat_inj, UInt64.toNat_ofNat_of_lt' small]
      omega
    · simp only [asCapacity, if_neg natural, whole.injEq, exists_eq_left', reduceCtorEq, false_iff]
      omega
  | _ => simp [asCapacity]

end Document

/-! ## Settings by their paths -/

inductive Setting where
  | debug
  | logLevel
  | cacheEnabled
  | cacheCapacity
  deriving DecidableEq, Repr

namespace Setting

def path : Setting → List Text
  | debug => [Settings.debugKey]
  | logLevel => [Settings.logLevelKey]
  | cacheEnabled => [Settings.cacheKey, CacheSettings.enabledKey]
  | cacheCapacity => [Settings.cacheKey, CacheSettings.capacityKey]

/-- What a document says about a setting. -/
def entry? (setting : Setting) (document : Document) : Option Document :=
  document.at? (setting.path.map .key)

def standard : Setting → Document
  | debug => .boolean false
  | logLevel => .string "info".toList
  | cacheEnabled => .boolean true
  | cacheCapacity => .whole ⟨0, by decide, by decide⟩

def HasType : Setting → Document → Prop
  | debug, entry | cacheEnabled, entry => ∃ b, entry = .boolean b
  | logLevel, entry => ∃ t, entry = .string t
  | cacheCapacity, entry => ∃ n : Whole, entry = .whole n ∧ 0 ≤ n.val ∧ n.val < 0x10000000000000000

def expectation : Setting → Expectation
  | debug | cacheEnabled => .boolean
  | logLevel => .string
  | cacheCapacity => .capacity

/-- What is reported of an entry that does not have the type of a setting. -/
def mismatch : Setting → Document → Mismatch
  | cacheCapacity, .whole n => .wrongValue n
  | setting, entry => .wrongType entry setting.expectation

/-- That settings have for a setting what an entry says. -/
def Shows (settings : Settings) : Setting → Document → Prop
  | debug, entry => entry = .boolean settings.debug
  | logLevel, entry => entry = .string settings.logLevel
  | cacheEnabled, entry => entry = .boolean settings.cache.enabled
  | cacheCapacity, entry => ∃ n : Whole, entry = .whole n ∧ n.val = settings.cache.capacity.toNat

theorem Shows.hasType {settings : Settings} {setting : Setting} {entry : Document}
    (shows : setting.Shows settings entry) : setting.HasType entry := by
  cases setting with
  | debug => exact ⟨_, shows⟩
  | logLevel => exact ⟨_, shows⟩
  | cacheEnabled => exact ⟨_, shows⟩
  | cacheCapacity =>
    obtain ⟨n, rfl, same⟩ := shows
    have := settings.cache.capacity.toNat_lt
    exact ⟨n, rfl, by omega, by omega⟩

end Setting

/-! ## Fields of settings -/

namespace CacheSettings

def enabledField : RecordField CacheSettings where
  key := enabledKey
  read := Document.asBoolean
  value := enabled
  put settings b := { settings with enabled := b }
  standard := Setting.cacheEnabled.standard

def capacityField : RecordField CacheSettings where
  key := capacityKey
  read := Document.asCapacity
  value := capacity
  put settings n := { settings with capacity := n }
  standard := Setting.cacheCapacity.standard

def fields : List (RecordField CacheSettings) := [enabledField, capacityField]

theorem areFields : AreFields set {} keys fields where
  keys_eq := rfl
  distinct := by decide
  given := List.forall_mem_cons.mpr ⟨⟨fun _ _ => rfl, fun _ _ => rfl, rfl⟩,
    List.forall_mem_singleton.mpr ⟨fun _ _ => rfl, fun _ _ => rfl, rfl⟩⟩
  unknown := by
    intro record key document absent
    simp only [keys, List.mem_cons, List.not_mem_nil, or_false, not_or] at absent
    simp [set, absent]
  apart := by simp [fields, enabledField, capacityField]
  ext := by
    intro record other same
    obtain ⟨_, _⟩ := record
    obtain ⟨_, _⟩ := other
    simpa [fields, enabledField, capacityField] using same

end CacheSettings

namespace Settings

def debugField : RecordField Settings where
  key := debugKey
  read := Document.asBoolean
  value := debug
  put settings b := { settings with debug := b }
  standard := Setting.debug.standard

def logLevelField : RecordField Settings where
  key := logLevelKey
  read := Document.asString
  value := logLevel
  put settings t := { settings with logLevel := t }
  standard := Setting.logLevel.standard

def cacheField : RecordField Settings where
  key := cacheKey
  read := CacheSettings.ofDocument
  value := cache
  put settings cache := { settings with cache := cache }
  standard := CacheSettings.toDocument {}

def fields : List (RecordField Settings) := [debugField, logLevelField, cacheField]

theorem areFields : AreFields set {} keys fields where
  keys_eq := rfl
  distinct := by decide
  given := List.forall_mem_cons.mpr ⟨⟨fun _ _ => rfl, fun _ _ => rfl, rfl⟩,
    List.forall_mem_cons.mpr ⟨⟨fun _ _ => rfl, fun _ _ => rfl, rfl⟩,
      List.forall_mem_singleton.mpr ⟨fun _ _ => rfl, fun _ _ => rfl, rfl⟩⟩⟩
  unknown := by
    intro record key document absent
    simp only [keys, List.mem_cons, List.not_mem_nil, or_false, not_or] at absent
    simp [set, absent]
  apart := by simp [fields, debugField, logLevelField, cacheField]
  ext := by
    intro record other same
    obtain ⟨_, _, _⟩ := record
    obtain ⟨_, _, _⟩ := other
    simpa [fields, debugField, logLevelField, cacheField] using same

end Settings

/-! ## Settings from documents -/

theorem CacheSettings.takenFrom_iff {settings : CacheSettings}
    {entries : Text → Option Document} :
    TakenFrom fields settings entries ↔
      ((entries enabledKey).getD Setting.cacheEnabled.standard).asBoolean =
          .ok settings.enabled ∧
        ((entries capacityKey).getD Setting.cacheCapacity.standard).asCapacity =
          .ok settings.capacity := by
  rw [TakenFrom, fields, List.forall_mem_cons, List.forall_mem_singleton]
  exact Iff.rfl

theorem Settings.takenFrom_iff {settings : Settings} {entries : Text → Option Document} :
    TakenFrom fields settings entries ↔
      ((entries debugKey).getD Setting.debug.standard).asBoolean = .ok settings.debug ∧
        ((entries logLevelKey).getD Setting.logLevel.standard).asString =
          .ok settings.logLevel ∧
        CacheSettings.ofDocument ((entries cacheKey).getD (CacheSettings.toDocument {})) =
          .ok settings.cache := by
  rw [TakenFrom, fields, List.forall_mem_cons, List.forall_mem_cons, List.forall_mem_singleton]
  exact Iff.rfl

namespace Setting

/-- Settings show what the document that they are read from says about any setting. -/
theorem shows_of_ofDocument {document : Document} (distinct : document.KeysDistinct)
    {settings : Settings} (read : Settings.ofDocument document = .ok settings)
    {setting : Setting} {entry : Document} (found : setting.entry? document = some entry) :
    setting.Shows settings entry := by
  have taken {members : Members} (distinct : (Document.object members).KeysDistinct)
      (read : Settings.ofDocument (.object members) = .ok settings) :=
    Settings.takenFrom_iff.mp (Settings.areFields.takenFrom_of_setFields distinct.keys read)
  have cached {key : Text} (below : document.at? [.key Settings.cacheKey, .key key] = some entry) :
      ∃ members : Members, TakenFrom CacheSettings.fields settings.cache (members.get? ·) ∧
        members.get? key = some entry := by
    obtain ⟨members, _, rfl, outer, inner⟩ := Document.at?_key_cons_eq_some_iff.mp below
    obtain ⟨cached, _, rfl, inner, there⟩ := Document.at?_key_cons_eq_some_iff.mp inner
    cases there
    obtain ⟨_, _, given⟩ := taken distinct read
    rw [outer] at given
    have under : (Document.object members).below? (.key Settings.cacheKey) = some _ := outer
    exact ⟨cached,
      CacheSettings.areFields.takenFrom_of_setFields (distinct.below under).keys given, inner⟩
  cases setting with
  | debug =>
    obtain ⟨members, _, rfl, found, there⟩ := Document.at?_key_cons_eq_some_iff.mp found
    cases there
    obtain ⟨given, _, _⟩ := taken distinct read
    rw [found] at given
    exact Document.asBoolean_eq_ok_iff.mp given
  | logLevel =>
    obtain ⟨members, _, rfl, found, there⟩ := Document.at?_key_cons_eq_some_iff.mp found
    cases there
    obtain ⟨_, given, _⟩ := taken distinct read
    rw [found] at given
    exact Document.asString_eq_ok_iff.mp given
  | cacheEnabled =>
    obtain ⟨members, taken, found⟩ := cached found
    obtain ⟨given, _⟩ := CacheSettings.takenFrom_iff.mp taken
    rw [found] at given
    exact Document.asBoolean_eq_ok_iff.mp given
  | cacheCapacity =>
    obtain ⟨members, taken, found⟩ := cached found
    obtain ⟨_, given⟩ := CacheSettings.takenFrom_iff.mp taken
    rw [found] at given
    exact Document.asCapacity_eq_ok_iff.mp given

theorem of_asCapacity_eq_error {entry : Document} {mismatch : Mismatch}
    (refused : entry.asCapacity = .error mismatch) :
    ¬ cacheCapacity.HasType entry ∧ mismatch = cacheCapacity.mismatch entry := by
  cases entry with
  | whole n =>
    rw [Document.asCapacity] at refused
    split at refused
    · cases refused
    · rename_i negative
      cases refused
      refine ⟨?_, rfl⟩
      intro hasType
      obtain ⟨_, same, natural, _⟩ := hasType
      cases same
      exact negative natural
  | _ =>
    cases refused
    simp [HasType, Setting.mismatch, expectation]

/-- What is reported of a document is that the entry of some setting does not have its type. -/
theorem exists_refused_of_ofDocument {members : Members}
    (distinct : (Document.object members).KeysDistinct)
    (nested : ∀ entry, members.get? Settings.cacheKey = some entry → ∃ inner, entry = .object inner)
    {mismatch : Mismatch} (failed : Settings.ofDocument (.object members) = .error mismatch) :
    ∃ (setting : Setting) (entry : Document), setting.entry? (.object members) = some entry ∧
      ¬ setting.HasType entry ∧ mismatch = setting.mismatch entry := by
  obtain ⟨⟨_, entry⟩, inside, _, refused⟩ := exists_member_of_setFields_eq_error failed
  have outer := (Members.get?_eq_some_iff_mem distinct.keys).mpr inside
  obtain ⟨field, member, rfl, refused⟩ := Settings.areFields.set_eq_error refused
  simp only [Settings.fields, List.mem_cons, List.not_mem_nil, or_false] at member
  rcases member with rfl | rfl | rfl
  · refine ⟨debug, entry, ?_, Document.asBoolean_eq_error refused⟩
    exact Document.at?_key_cons_eq_some_iff.mpr ⟨members, entry, rfl, outer, rfl⟩
  · refine ⟨logLevel, entry, ?_, Document.asString_eq_error refused⟩
    exact Document.at?_key_cons_eq_some_iff.mpr ⟨members, entry, rfl, outer, rfl⟩
  · obtain ⟨cached, rfl⟩ := nested entry outer
    have under : (Document.object members).below? (.key Settings.cacheKey) =
        some (.object cached) := outer
    have different := (distinct.below under).keys
    have reached {key : Text} {entry : Document} (inner : Members.get? key cached = some entry) :
        (Document.object members).at? [.key Settings.cacheKey, .key key] = some entry :=
      Document.at?_key_cons_eq_some_iff.mpr ⟨members, _, rfl, outer,
        Document.at?_key_cons_eq_some_iff.mpr ⟨cached, entry, rfl, inner, rfl⟩⟩
    obtain ⟨⟨_, entry⟩, inside, _, refused⟩ := exists_member_of_setFields_eq_error refused
    have inner := (Members.get?_eq_some_iff_mem different).mpr inside
    obtain ⟨field, member, rfl, refused⟩ := CacheSettings.areFields.set_eq_error refused
    simp only [CacheSettings.fields, List.mem_cons, List.not_mem_nil, or_false] at member
    rcases member with rfl | rfl
    · exact ⟨cacheEnabled, entry, reached inner, Document.asBoolean_eq_error refused⟩
    · exact ⟨cacheCapacity, entry, reached inner, of_asCapacity_eq_error refused⟩

end Setting

end QueryTemplate
