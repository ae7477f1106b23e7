import QueryTemplate.Proofs.Precedence

/-! The shapes of documents that settings are read from. A document gives fields as an object, by
their keys, or as an array, in order; any other document is refused, and so is an array with more
items than there are fields. What is laid over the defaults is read as if it stood alone, because
what it does not give has its default in either case. -/

set_option autoImplicit false

namespace QueryTemplate

namespace Document

/-- The members by which a document gives the fields with some keys. -/
def fields? (keys : List Text) : Document → Option Members
  | object members => some members
  | array items => if items.length ≤ keys.length then some (keys.zip items) else none
  | _ => none

def field? (document : Document) (keys : List Text) (key : Text) : Option Document :=
  (document.fields? keys).bind fun members => members.get? key

/-- That a document has the shape to give the fields with some keys. -/
def GivesFields (document : Document) (keys : List Text) : Prop :=
  (∃ members, document = object members) ∨
    ∃ items, document = array items ∧ items.length ≤ keys.length

theorem givesFields_iff {document : Document} {keys : List Text} :
    document.GivesFields keys ↔ ∃ members, document.fields? keys = some members := by
  cases document with
  | object members => simp [GivesFields, fields?]
  | array items => simp [GivesFields, fields?]
  | _ => simp [GivesFields, fields?]

theorem field?_eq {document : Document} {keys : List Text} {members : Members}
    (given : document.fields? keys = some members) : document.field? keys = (members.get? ·) := by
  funext key
  rw [field?, given]
  rfl

theorem map_fst_zip_sublist (keys : List Text) (items : List Document) :
    ((keys.zip items).map Prod.fst).Sublist keys := by
  induction keys generalizing items with
  | nil => exact List.Sublist.refl _
  | cons key keys ih =>
    cases items with
    | nil => exact List.nil_sublist _
    | cons item items => exact (ih items).cons_cons key

theorem KeysDistinct.nodup_fields? {document : Document} (distinct : document.KeysDistinct)
    {keys : List Text} (different : keys.Nodup) {members : Members}
    (given : document.fields? keys = some members) : (members.map Prod.fst).Nodup := by
  cases document with
  | object =>
    cases given
    exact distinct.keys
  | array items =>
    obtain ⟨_, same⟩ := Option.ite_none_right_eq_some.mp given
    cases same
    exact different.sublist (map_fst_zip_sublist keys items)
  | _ => cases given

theorem KeysDistinct.field? {document below : Document} (distinct : document.KeysDistinct)
    {keys : List Text} {key : Text} (found : document.field? keys key = some below) :
    below.KeysDistinct := by
  obtain ⟨members, given, found⟩ := Option.bind_eq_some_iff.mp found
  cases document with
  | object =>
    cases given
    have under : (object members).below? (.key key) = some below := found
    exact distinct.below under
  | array items =>
    obtain ⟨_, same⟩ := Option.ite_none_right_eq_some.mp given
    cases same
    exact distinct.item (List.of_mem_zip (Members.mem_of_get? found)).2
  | _ => cases given

end Document

/-! ## Records with defaults -/

theorem setItems_eq_ok_iff {α : Type} {set : α → Text → Document → Except Mismatch α}
    {record result : α} {keys : List Text} {items : List Document} :
    setItems set record keys items = .ok result ↔
      ∃ members, (Document.array items).fields? keys = some members ∧
        setFields set record members = .ok result := by
  rw [setItems, Document.fields?]
  cases given : setFields set record (keys.zip items) with
  | error mismatch =>
    by_cases short : items.length ≤ keys.length
    · simp [short, given]
    · simp [short]
  | ok next =>
    by_cases short : items.length ≤ keys.length
    · simp [short, given]
    · simp [short]

/-- That a field is read alike from an entry and from what the entry makes of its default. -/
def RecordField.ReadsOver {α : Type} (field : RecordField α) : Prop :=
  ∀ entry : Document, entry.KeysDistinct → ∀ value,
    field.read (field.standard.merge entry) = .ok value ↔ field.read entry = .ok value

theorem RecordField.readsOver_of_leaf {α : Type} {field : RecordField α}
    (leaf : ∀ members, field.standard ≠ .object members) : field.ReadsOver := by
  intro entry _ value
  rw [Document.merge_of_leaf leaf]

namespace AreFields

variable {α : Type} {set : α → Text → Document → Except Mismatch α} {start record : α}
  {keys : List Text} {fields : List (RecordField α)} (are : AreFields set start keys fields)
  {expected : Expectation} {document : Document}

include are

/-- A record is read from a document of the right shape, and takes from it what it gives. -/
theorem readRecord_eq_ok_iff (distinct : document.KeysDistinct) :
    readRecord set start keys expected document = .ok record ↔
      document.GivesFields keys ∧ TakenFrom fields record (document.field? keys) := by
  have opened : readRecord set start keys expected document = .ok record ↔
      ∃ members, document.fields? keys = some members ∧
        setFields set start members = .ok record := by
    cases document with
    | object members => simp [readRecord, Document.fields?]
    | array items => exact setItems_eq_ok_iff
    | _ => simp [readRecord, Document.fields?]
  rw [opened, Document.givesFields_iff]
  constructor
  · intro read
    obtain ⟨members, given, done⟩ := read
    have apart := distinct.nodup_fields? are.distinct given
    exact ⟨⟨members, given⟩,
      Document.field?_eq given ▸ (are.setFields_eq_ok_iff apart).mp done⟩
  · intro read
    obtain ⟨⟨members, given⟩, taken⟩ := read
    have apart := distinct.nodup_fields? are.distinct given
    rw [Document.field?_eq given] at taken
    exact ⟨members, given, (are.setFields_eq_ok_iff apart).mpr taken⟩

/-- Laying a document over the defaults changes nothing that is read. -/
theorem readRecord_merge (alike : ∀ field ∈ fields, field.ReadsOver)
    (distinct : document.KeysDistinct) :
    readRecord set start keys expected ((Document.object (standards fields)).merge document) =
        .ok record ↔
      readRecord set start keys expected document = .ok record := by
  cases document with
  | object members =>
    rw [Document.merge_object]
    refine (are.setFields_eq_ok_iff (Members.nodup_merge are.nodup_standards)).trans
      (Iff.trans ?_ (are.setFields_eq_ok_iff distinct.keys).symm)
    refine forall₂_congr fun field member => ?_
    dsimp only
    rw [Members.get?_merge are.nodup_standards distinct.keys, are.get?_standards member]
    cases given : Members.get? field.key members with
    | none => exact Iff.rfl
    | some entry =>
      have under : (Document.object members).below? (.key field.key) = some entry := given
      exact alike field member entry (distinct.below under) _
  | _ => rw [Document.merge_leaf _ (by simp)]

end AreFields

/-! ## Settings over their defaults -/

namespace CacheSettings

/-- Settings are read from an entry for them, and are the defaults if there is none. -/
theorem ofDocument_getD_eq_ok_iff {entry : Option Document}
    (distinct : ∀ cached, entry = some cached → cached.KeysDistinct) {settings : CacheSettings} :
    ofDocument (entry.getD (toDocument {})) = .ok settings ↔
      (∀ cached, entry = some cached → cached.GivesFields keys) ∧
        TakenFrom fields settings fun key => entry.bind (·.field? keys key) := by
  cases entry with
  | none =>
    have empty : setFields set {} [] = .ok settings ↔ _ :=
      areFields.setFields_eq_ok_iff List.nodup_nil
    exact ⟨fun read => ⟨by simp, empty.mp read⟩, fun given => empty.mpr given.2⟩
  | some cached =>
    have read : ofDocument cached = .ok settings ↔ _ :=
      areFields.readRecord_eq_ok_iff (distinct cached rfl)
    simpa using read

theorem readsOver : ∀ field ∈ fields, field.ReadsOver :=
  List.forall_mem_cons.mpr
    ⟨RecordField.readsOver_of_leaf Setting.cacheEnabled.hasType_standard.not_object,
      List.forall_mem_singleton.mpr
        (RecordField.readsOver_of_leaf Setting.cacheCapacity.hasType_standard.not_object)⟩

end CacheSettings

namespace Settings

theorem readsOver : ∀ field ∈ fields, field.ReadsOver :=
  List.forall_mem_cons.mpr
    ⟨RecordField.readsOver_of_leaf Setting.debug.hasType_standard.not_object,
      List.forall_mem_cons.mpr
        ⟨RecordField.readsOver_of_leaf Setting.logLevel.hasType_standard.not_object,
          List.forall_mem_singleton.mpr fun _ distinct _ =>
            CacheSettings.areFields.readRecord_merge CacheSettings.readsOver distinct⟩⟩

theorem ofDocumentOverDefaults_eq_ok_iff {document : Document} (distinct : document.KeysDistinct)
    {settings : Settings} :
    ofDocumentOverDefaults document = .ok settings ↔ ofDocument document = .ok settings :=
  areFields.readRecord_merge readsOver distinct

/-- That a document has the shape of settings: it gives fields, and so does what it gives for the
settings of the cache, if it gives anything for them. -/
def WellShaped (document : Document) : Prop :=
  document.GivesFields keys ∧
    ∀ cached, document.field? keys cacheKey = some cached → cached.GivesFields CacheSettings.keys

end Settings

namespace Setting

/-- What a document gives for a setting, be it in objects or in arrays. -/
def given? (setting : Setting) (document : Document) : Option Document :=
  let cached := document.field? Settings.keys Settings.cacheKey
  match setting with
  | debug => document.field? Settings.keys Settings.debugKey
  | logLevel => document.field? Settings.keys Settings.logLevelKey
  | cacheEnabled => cached.bind (·.field? CacheSettings.keys CacheSettings.enabledKey)
  | cacheCapacity => cached.bind (·.field? CacheSettings.keys CacheSettings.capacityKey)

theorem exists_shows_iff {entries : Setting → Document} :
    (∃ settings, ∀ setting : Setting, setting.Shows settings (entries setting)) ↔
      ∀ setting : Setting, setting.HasType (entries setting) := by
  constructor
  · intro shown setting
    obtain ⟨settings, shown⟩ := shown
    exact (shown setting).hasType
  · intro typed
    obtain ⟨debug, givenDebug⟩ := typed .debug
    obtain ⟨logLevel, givenLevel⟩ := typed .logLevel
    obtain ⟨enabled, givenEnabled⟩ := typed .cacheEnabled
    obtain ⟨n, givenCapacity, natural, _⟩ := typed .cacheCapacity
    have read : (Document.whole n).asCapacity = .ok (.ofNat n.val.toNat) := if_pos natural
    obtain ⟨_, same, value⟩ := Document.asCapacity_eq_ok_iff.mp read
    cases same
    refine ⟨⟨debug, logLevel, enabled, .ofNat n.val.toNat⟩, fun setting => ?_⟩
    cases setting with
    | debug => exact givenDebug
    | logLevel => exact givenLevel
    | cacheEnabled => exact givenEnabled
    | cacheCapacity => exact ⟨n, givenCapacity, value⟩

end Setting

namespace Settings

theorem ofDocument_eq_ok_iff_shows {document : Document} (distinct : document.KeysDistinct)
    {settings : Settings} :
    ofDocument document = .ok settings ↔ WellShaped document ∧
      ∀ setting : Setting,
        setting.Shows settings ((setting.given? document).getD setting.standard) := by
  have below (cached : Document) (found : document.field? keys cacheKey = some cached) :
      cached.KeysDistinct := distinct.field? found
  rw [ofDocument, areFields.readRecord_eq_ok_iff distinct, takenFrom_iff,
    CacheSettings.ofDocument_getD_eq_ok_iff below, CacheSettings.takenFrom_iff]
  constructor
  · intro read
    obtain ⟨gives, debug, logLevel, shaped, enabled, capacity⟩ := read
    refine ⟨⟨gives, shaped⟩, fun setting => ?_⟩
    cases setting with
    | debug => exact Document.asBoolean_eq_ok_iff.mp debug
    | logLevel => exact Document.asString_eq_ok_iff.mp logLevel
    | cacheEnabled => exact Document.asBoolean_eq_ok_iff.mp enabled
    | cacheCapacity => exact Document.asCapacity_eq_ok_iff.mp capacity
  · intro given
    obtain ⟨⟨gives, shaped⟩, shown⟩ := given
    refine ⟨gives, ?_, ?_, shaped, ?_, ?_⟩
    · exact Document.asBoolean_eq_ok_iff.mpr (shown .debug)
    · exact Document.asString_eq_ok_iff.mpr (shown .logLevel)
    · exact Document.asBoolean_eq_ok_iff.mpr (shown .cacheEnabled)
    · exact Document.asCapacity_eq_ok_iff.mpr (shown .cacheCapacity)

theorem exists_ofDocument_iff {document : Document} (distinct : document.KeysDistinct) :
    (∃ settings, ofDocument document = .ok settings) ↔ WellShaped document ∧
      ∀ (setting : Setting) (entry : Document), setting.given? document = some entry →
        setting.HasType entry := by
  have typed : (∀ setting : Setting,
      setting.HasType ((setting.given? document).getD setting.standard)) ↔
        ∀ (setting : Setting) (entry : Document), setting.given? document = some entry →
          setting.HasType entry := by
    refine forall_congr' fun setting => ?_
    cases setting.given? document with
    | none => simp [setting.hasType_standard]
    | some entry => simp
  simp only [ofDocument_eq_ok_iff_shows distinct, exists_and_left, Setting.exists_shows_iff, typed]

end Settings

/-- The outermost table is not read as an array. -/
theorem Toml.ne_array_of_read? {text : Text} {document : Document}
    (read : Toml.read? text = some document) (items : List Document) :
    document ≠ .array items := by
  obtain ⟨reading, _, read⟩ := Option.bind_eq_some_iff.mp read
  rintro rfl
  rw [Entries.toValue] at read
  cases tables : Entries.values reading.entries with
  | nil =>
    rw [tables, Value.document?] at read
    cases read
  | cons member members =>
    rw [tables, Value.document?] at read
    split at read
    · obtain ⟨_, _, same⟩ := Option.map_eq_some_iff.mp read
      cases same
    · split at read <;> cases read

namespace Settings

theorem ofText_eq_ok_iff_ofDocument {format : SettingsFormat} {text : Text} {document : Document}
    (read : format.read? text = some document) {settings : Settings} :
    ofText format text = .ok settings ↔ ofDocument document = .ok settings :=
  (ofText_eq_ok_iff read).trans (ofDocumentOverDefaults_eq_ok_iff (keysDistinct_of_read? read))

/-- What becomes of a text that holds a document of whatever shape. It is loaded exactly if the
document is well shaped and every setting that it gives has its type; a setting is as the document
gives it, and by default only if it gives none. Everything else is refused, and a document that is
neither an object nor an array is reported as a whole. Of TOML text, nothing but an object is
loaded. -/
theorem ofText_shapes {format : SettingsFormat} {text : Text} {document : Document}
    (read : format.read? text = some document) :
    ((∃ settings, ofText format text = .ok settings) ↔ WellShaped document ∧
        ∀ (setting : Setting) (entry : Document), setting.given? document = some entry →
          setting.HasType entry) ∧
      (∀ settings, ofText format text = .ok settings → ∀ setting : Setting,
        setting.Shows settings ((setting.given? document).getD setting.standard)) ∧
      ((∀ settings, ofText format text ≠ .ok settings) →
        ∃ mismatch, ofText format text = .error (.mismatched format mismatch)) ∧
      ((∀ members, document ≠ .object members) → (∀ items, document ≠ .array items) →
        ofText format text = .error (.mismatched format (.wrongType document .settings))) ∧
      (format = .toml → ∀ settings, ofText format text = .ok settings →
        ∃ members, document = .object members) := by
  have distinct := keysDistinct_of_read? read
  have shows (settings : Settings) (loaded : ofText format text = .ok settings) :=
    (ofDocument_eq_ok_iff_shows distinct).mp ((ofText_eq_ok_iff_ofDocument read).mp loaded)
  refine ⟨?_, fun settings loaded => (shows settings loaded).2, ?_, ?_, ?_⟩
  · simpa only [ofText_eq_ok_iff_ofDocument read] using exists_ofDocument_iff distinct
  · intro refused
    rw [ofText_of_read read] at refused ⊢
    cases loaded : ofDocumentOverDefaults document with
    | ok settings => exact absurd (congrArg _ loaded) (refused settings)
    | error mismatch => exact ⟨mismatch, rfl⟩
  · intro notObject notArray
    rw [ofText_of_read read, ofDocumentOverDefaults, Document.merge_leaf _ notObject]
    cases document with
    | object members => exact absurd rfl (notObject members)
    | array items => exact absurd rfl (notArray items)
    | _ => rfl
  · intro toml settings loaded
    subst toml
    rcases (shows settings loaded).1.1 with object | ⟨items, array, _⟩
    · exact object
    · exact absurd array (Toml.ne_array_of_read? read items)

/-- An array for the settings of the cache, in front of another setting. -/
theorem ofText_shapes_array_within :
    ∃ (text : Text) (document : Document) (settings : Settings),
      text = "\x7b\"template\":[],\"log_level\":\"x\"\x7d".toList ∧
        SettingsFormat.json.read? text = some document ∧ WellShaped document ∧
        ofText .json text = .ok settings ∧ Setting.logLevel.Shows settings (.string ['x']) ∧
        Setting.cacheEnabled.Shows settings (.boolean true) := by
  have read : SettingsFormat.json.read?
      "\x7b\"template\":[],\"log_level\":\"x\"\x7d".toList =
        some (.object [(cacheKey, .array []), (logLevelKey, .string ['x'])]) := by cbv
  have shaped : WellShaped (.object [(cacheKey, .array []), (logLevelKey, .string ['x'])]) := by
    refine ⟨.inl ⟨_, rfl⟩, fun cached found => ?_⟩
    cases found
    exact .inr ⟨[], rfl, by decide⟩
  have typed (setting : Setting) (entry : Document) (given : setting.given?
      (.object [(cacheKey, .array []), (logLevelKey, .string ['x'])]) = some entry) :
      setting.HasType entry := by
    cases setting with
    | logLevel =>
      cases given
      exact ⟨_, rfl⟩
    | _ => cases given
  obtain ⟨loads, shows, _⟩ := ofText_shapes read
  obtain ⟨settings, loaded⟩ := loads.mpr ⟨shaped, typed⟩
  exact ⟨_, _, settings, rfl, read, shaped, loaded, shows settings loaded .logLevel,
    shows settings loaded .cacheEnabled⟩

/-- Arrays without items are loaded as the defaults. -/
theorem ofText_array :
    SettingsFormat.json.read? "[]".toList = some (.array []) ∧
      ofText .json "[]".toList = .ok {} ∧
      SettingsFormat.json.read? "\x7b\"template\":[]\x7d".toList =
        some (.object [(cacheKey, .array [])]) ∧
      ofText .json "\x7b\"template\":[]\x7d".toList = .ok {} := by
  have outer : SettingsFormat.json.read? "[]".toList = some (.array []) := by cbv
  have inner : SettingsFormat.json.read? "\x7b\"template\":[]\x7d".toList =
      some (.object [(cacheKey, .array [])]) := by cbv
  exact ⟨outer, (ofText_eq_ok_iff_ofDocument outer).mpr rfl, inner,
    (ofText_eq_ok_iff_ofDocument inner).mpr rfl⟩

end Settings

end QueryTemplate
