import QueryTemplate.Proofs.Decoding
import QueryTemplate.Proofs.PathGrammar
import QueryTemplate.Proofs.ReadDocuments
import QueryTemplate.Proofs.ReadTables
import QueryTemplate.Settings.Load

/-! Where settings come from. A setting has what the environment says of it, otherwise what the
document says, otherwise its default; one that the document says in another type is not taken for
absent but refused. Nothing else in a document counts, and neither does the order of its keys. -/

set_option autoImplicit false

namespace QueryTemplate

/-- That a value is what the first of two sources says that says anything, and otherwise the
default. -/
inductive FirstOf {α : Type} (spoken written : α → Prop) (default : α) : α → Prop where
  | spoken {a : α} : spoken a → FirstOf spoken written default a
  | written {a : α} : (∀ b, ¬ spoken b) → written a → FirstOf spoken written default a
  | default : (∀ b, ¬ spoken b) → (∀ b, ¬ written b) → FirstOf spoken written default default

theorem firstOf_getD {α : Type} {spoken written : α → Prop} {default before : α} {said : Option α}
    (agrees : ∀ a, said = some a ↔ spoken a)
    (below : written before ∨ (∀ b, ¬ written b) ∧ before = default) :
    FirstOf spoken written default (said.getD before) := by
  cases said with
  | some a => exact .spoken ((agrees a).mp rfl)
  | none =>
    have silent : ∀ b, ¬ spoken b := fun b own => nomatch (agrees b).mpr own
    rcases below with given | ⟨absent, rfl⟩
    · exact .written silent given
    · exact .default silent absent

/-! ## What variables say -/

/-- The words for something being on, in letters of either case. -/
def IsOnWord (word : Text) : Prop :=
  word.map Char.toLower ∈ ["true".toList, "1".toList, "yes".toList]

/-- The ways to write a number of 64 bits: its digits, leading zeros allowed, and a plus sign at
most. -/
def WordForm (word : UInt64) (text : Text) : Prop :=
  ∃ sign digits, (sign = [] ∨ sign = ['+']) ∧ (∀ c ∈ digits, c.isDigit = true) ∧
    digits ≠ [] ∧ text = sign ++ digits ∧ Text.ofDigits digits = word.toNat

namespace Environment

def SaysFlag (environment : Environment) (name : Text) (b : Bool) : Prop :=
  ∃ text, environment.get? name = some text ∧ (b = true ↔ Text.Spaced IsOnWord text)

def SaysWord (environment : Environment) (name : Text) (word : UInt64) : Prop :=
  ∃ text, environment.get? name = some text ∧ Text.Spaced (WordForm word) text

end Environment

theorem isAlphanum_of_toLower {c : Char} (lower : c.toLower.isAlphanum = true) :
    c.isAlphanum = true := by
  by_cases upper : c.isUpper = true
  · change (c.isUpper || c.isLower || c.isDigit) = true
    rw [upper]
    rfl
  · have same : c.toLower = c := dif_neg fun range => upper (decide_eq_true range)
    rwa [same] at lower

theorem IsOnWord.trimmed {word : Text} (on : IsOnWord word) : Text.Trimmed word := by
  apply Text.trimmed_of_visible
  intro c member
  have lower : c.toLower ∈ word.map Char.toLower := List.mem_map.mpr ⟨c, member, rfl⟩
  have known : ["true".toList, "1".toList, "yes".toList].all (·.all Char.isAlphanum) = true := by
    decide
  have visible := List.all_eq_true.mp (List.all_eq_true.mp known _ on) _ lower
  exact IsNameChar.isBlank_eq_false (.inl (isAlphanum_of_toLower visible))

theorem WordForm.trimmed {word : UInt64} {text : Text} (form : WordForm word text) :
    Text.Trimmed text := by
  obtain ⟨sign, digits, plus, digital, _, rfl, _⟩ := form
  apply Text.trimmed_of_visible
  intro c member
  rcases List.mem_append.mp member with inSign | inDigits
  · rcases plus with rfl | rfl
    · cases inSign
    · cases List.mem_singleton.mp inSign
      rfl
  · exact isBlank_eq_false_of_isDigit (digital c inDigits)

namespace Overrides

theorem isOn_eq_true_iff {text : Text} : isOn text = true ↔ Text.Spaced IsOnWord text := by
  rw [Text.spaced_iff_trim fun _ on => on.trimmed]
  exact List.contains_iff_mem

theorem capacity?_eq_some_iff {text : Text} {word : UInt64} :
    capacity? text = some word ↔ Text.Spaced (WordForm word) text := by
  rw [Text.spaced_iff_trim fun _ form => form.trimmed]
  exact Text.readWord?_eq_some_iff

theorem map_isOn_eq_some_iff {environment : Environment} {name : Text} {b : Bool} :
    (environment.get? name).map isOn = some b ↔ environment.SaysFlag name b := by
  rw [Option.map_eq_some_iff]
  constructor
  · intro said
    obtain ⟨text, given, rfl⟩ := said
    exact ⟨text, given, isOn_eq_true_iff⟩
  · intro told
    obtain ⟨text, given, same⟩ := told
    exact ⟨text, given, Bool.eq_iff_iff.mpr (isOn_eq_true_iff.trans same.symm)⟩

theorem bind_capacity?_eq_some_iff {environment : Environment} {name : Text} {word : UInt64} :
    (environment.get? name).bind capacity? = some word ↔ environment.SaysWord name word := by
  rw [Option.bind_eq_some_iff]
  exact exists_congr fun text => and_congr_right fun _ => capacity?_eq_some_iff

end Overrides

/-! ## Documents over the defaults -/

namespace Setting

theorem entry?_defaults (setting : Setting) :
    setting.entry? (Settings.toDocument {}) = some setting.standard := by
  cases setting <;> rfl

theorem hasType_standard (setting : Setting) : setting.HasType setting.standard := by
  cases setting with
  | cacheCapacity => exact ⟨_, rfl, by decide, by decide⟩
  | _ => exact ⟨_, rfl⟩

theorem HasType.not_object {setting : Setting} {entry : Document}
    (hasType : setting.HasType entry) (members : Members) : entry ≠ .object members := by
  intro same
  subst same
  cases setting with
  | cacheCapacity =>
    obtain ⟨_, same, _⟩ := hasType
    cases same
  | _ =>
    obtain ⟨_, same⟩ := hasType
    cases same

end Setting

theorem CacheSettings.keysDistinct_toDocument (settings : CacheSettings) :
    settings.toDocument.KeysDistinct := by
  refine Document.keysDistinct_object (show keys.Nodup by decide) ?_
  rw [List.forall_mem_cons, List.forall_mem_singleton]
  exact ⟨Document.keysDistinct_of_simple rfl, Document.keysDistinct_of_simple rfl⟩

theorem Settings.keysDistinct_toDocument (settings : Settings) :
    settings.toDocument.KeysDistinct := by
  refine Document.keysDistinct_object (show keys.Nodup by decide) ?_
  rw [List.forall_mem_cons, List.forall_mem_cons, List.forall_mem_singleton]
  exact ⟨Document.keysDistinct_of_simple rfl, Document.keysDistinct_of_simple rfl,
    settings.cache.keysDistinct_toDocument⟩

namespace Settings

theorem merge_defaults (members : Members) :
    Document.merge (toDocument {}) (.object members) =
      .object ((standards fields).merge members) :=
  Document.merge_object (standards fields) members

/-- That a document gives no setting but in its type. -/
def Typed (document : Document) : Prop :=
  ∀ (setting : Setting) (entry : Document), setting.entry? document = some entry →
    setting.HasType entry

section

variable {members : Members} (distinct : (Document.object members).KeysDistinct)
  (nested : ∀ entry, members.get? cacheKey = some entry → ∃ inner, entry = .object inner)

include distinct nested

theorem entry?_merge_defaults (setting : Setting) :
    setting.entry? (Document.merge (toDocument {}) (.object members)) =
      some ((setting.entry? (.object members)).getD setting.standard) := by
  refine Document.at?_merge_of_leaf (keysDistinct_toDocument {}) distinct
    setting.entry?_defaults setting.hasType_standard.not_object ?_
  intro front key within node found
  have place : front = [] ∨ front = [cacheKey] := by
    have only {front : List Text} {last : Text} (within : front ++ [key] <+: [last]) :
        front = [] := by
      simpa using within.length_le
    cases setting with
    | debug | logLevel => exact .inl (only within)
    | cacheEnabled | cacheCapacity =>
      cases front with
      | nil => exact .inl rfl
      | cons first front =>
        obtain ⟨rfl, further⟩ := List.cons_prefix_cons.mp within
        rw [only further]
        exact .inr rfl
  rcases place with rfl | rfl
  · cases found
    exact ⟨members, rfl⟩
  · obtain ⟨_, below, same, found, there⟩ := Document.at?_key_cons_eq_some_iff.mp found
    cases same
    cases there
    exact nested _ found

/-- The settings of a document over the defaults show what the document says, and the defaults
where it says nothing. -/
theorem shows_of_ofDocumentOverDefaults {settings : Settings}
    (loaded : ofDocumentOverDefaults (.object members) = .ok settings)
    (setting : Setting) :
    setting.Shows settings ((setting.entry? (.object members)).getD setting.standard) :=
  Setting.shows_of_ofDocument ((keysDistinct_toDocument {}).merge distinct) loaded
    (entry?_merge_defaults distinct nested setting)

theorem exists_refused_of_ofDocumentOverDefaults {mismatch : Mismatch}
    (failed : ofDocumentOverDefaults (.object members) = .error mismatch) :
    ∃ (setting : Setting) (entry : Document), setting.entry? (.object members) = some entry ∧
      ¬ setting.HasType entry ∧ mismatch = setting.mismatch entry := by
  have different := (keysDistinct_toDocument {}).merge distinct
  have still : ∀ entry, Members.get? cacheKey ((standards fields).merge members) = some entry →
      ∃ inner, entry = .object inner := by
    intro entry found
    rw [Members.get?_merge areFields.nodup_standards distinct.keys] at found
    cases given : members.get? cacheKey with
    | none =>
      rw [given] at found
      cases found
      exact ⟨_, rfl⟩
    | some above =>
      obtain ⟨inner, rfl⟩ := nested above given
      rw [given] at found
      cases found
      exact ⟨_, Document.merge_object _ inner⟩
  rw [merge_defaults] at different
  rw [ofDocumentOverDefaults, merge_defaults] at failed
  obtain ⟨setting, entry, found, refused, reported⟩ :=
    Setting.exists_refused_of_ofDocument different still failed
  rw [← merge_defaults, entry?_merge_defaults distinct nested] at found
  cases given : setting.entry? (.object members) with
  | none =>
    rw [given] at found
    cases found
    exact absurd setting.hasType_standard refused
  | some written =>
    rw [given] at found
    cases found
    exact ⟨setting, written, given, refused, reported⟩

theorem exists_ofDocumentOverDefaults_iff :
    (∃ settings, ofDocumentOverDefaults (.object members) = .ok settings) ↔
      Typed (.object members) := by
  constructor
  · intro loaded setting entry found
    obtain ⟨settings, loaded⟩ := loaded
    have shown := shows_of_ofDocumentOverDefaults distinct nested loaded setting
    rw [found] at shown
    exact shown.hasType
  · intro typed
    cases loaded : ofDocumentOverDefaults (.object members) with
    | ok settings => exact ⟨settings, rfl⟩
    | error mismatch =>
      obtain ⟨setting, entry, found, refused, _⟩ :=
        exists_refused_of_ofDocumentOverDefaults distinct nested loaded
      exact absurd (typed setting entry found) refused

end

theorem eq_of_shows {settings others : Settings}
    (same : ∀ setting : Setting, ∃ entry, setting.Shows settings entry ∧
      setting.Shows others entry) : settings = others := by
  obtain ⟨debug, logLevel, enabled, capacity⟩ := settings
  obtain ⟨debug', logLevel', enabled', capacity'⟩ := others
  obtain ⟨_, rfl, shownDebug⟩ := same .debug
  obtain ⟨_, rfl, shownLevel⟩ := same .logLevel
  obtain ⟨_, rfl, shownEnabled⟩ := same .cacheEnabled
  obtain ⟨_, ⟨n, rfl, value⟩, m, shownCapacity, value'⟩ := same .cacheCapacity
  cases shownDebug
  cases shownLevel
  cases shownEnabled
  cases shownCapacity
  cases UInt64.toNat_inj.mp (Int.ofNat_inj.mp (value.symm.trans value'))
  rfl

/-! ## The environment over a document -/

/-- That every setting is as the environment says, otherwise as a document says, otherwise as it is
by default. -/
structure Follows (environment : Environment) (document : Document) (settings : Settings) :
    Prop where
  debug : FirstOf (environment.SaysFlag "STMT_DEBUG".toList)
    (fun b => Setting.debug.entry? document = some (.boolean b)) false settings.debug
  logLevel : FirstOf (fun t => environment.get? "STMT_LOG_LEVEL".toList = some t)
    (fun t => Setting.logLevel.entry? document = some (.string t)) "info".toList
    settings.logLevel
  cacheEnabled : FirstOf (environment.SaysFlag "STMT_TEMPLATE_CACHE_ENABLED".toList)
    (fun b => Setting.cacheEnabled.entry? document = some (.boolean b)) true
    settings.cache.enabled
  cacheCapacity : FirstOf (environment.SaysWord "STMT_TEMPLATE_CACHE_CAPACITY".toList)
    (fun word => ∃ n : Whole, Setting.cacheCapacity.entry? document = some (.whole n) ∧
      n.val = word.toNat) 0 settings.cache.capacity

theorem given_or_standard {α : Type} {given : Option Document} {kind : α → Document}
    {standard value : α} (injective : ∀ a b, kind a = kind b → a = b)
    (shown : given.getD (kind standard) = kind value) :
    given = some (kind value) ∨ (∀ a, ¬ given = some (kind a)) ∧ value = standard := by
  cases given with
  | some entry => exact .inl (congrArg some shown)
  | none => exact .inr ⟨by simp, (injective _ _ shown).symm⟩

theorem follows_override {document : Document} {settings : Settings}
    (shown : ∀ setting : Setting,
      setting.Shows settings ((setting.entry? document).getD setting.standard))
    (environment : Environment) :
    Follows environment document (settings.override (.ofEnvironment environment)) where
  debug := firstOf_getD (fun _ => Overrides.map_isOn_eq_some_iff)
    (given_or_standard (by simp) (shown .debug))
  logLevel := firstOf_getD (fun _ => Iff.rfl) (given_or_standard (by simp) (shown .logLevel))
  cacheEnabled := firstOf_getD (fun _ => Overrides.map_isOn_eq_some_iff)
    (given_or_standard (by simp) (shown .cacheEnabled))
  cacheCapacity := by
    refine firstOf_getD (fun _ => Overrides.bind_capacity?_eq_some_iff) ?_
    obtain ⟨n, same, value⟩ := shown .cacheCapacity
    cases given : Setting.cacheCapacity.entry? document with
    | some entry =>
      rw [given] at same
      exact .inl ⟨n, congrArg some same, value⟩
    | none =>
      rw [given] at same
      cases same
      exact .inr ⟨by simp, UInt64.toNat_inj.mp (Int.natCast_eq_zero.mp value.symm)⟩

theorem toOption_eq_of_entries {members members' : Members}
    (distinct : (Document.object members).KeysDistinct)
    (nested : ∀ entry, members.get? cacheKey = some entry → ∃ inner, entry = .object inner)
    (distinct' : (Document.object members').KeysDistinct)
    (nested' : ∀ entry, members'.get? cacheKey = some entry → ∃ inner, entry = .object inner)
    (same : ∀ setting : Setting,
      setting.entry? (.object members) = setting.entry? (.object members')) :
    (ofDocumentOverDefaults (.object members)).toOption =
      (ofDocumentOverDefaults (.object members')).toOption := by
  have loads := exists_ofDocumentOverDefaults_iff distinct nested
  have loads' := exists_ofDocumentOverDefaults_iff distinct' nested'
  have typed : Typed (.object members) ↔ Typed (.object members') := by
    simp only [Typed, same]
  cases loaded : ofDocumentOverDefaults (.object members) with
  | error mismatch =>
    cases loaded' : ofDocumentOverDefaults (.object members') with
    | error mismatch' => rfl
    | ok settings' =>
      obtain ⟨settings, loaded'⟩ := loads.mpr (typed.mpr (loads'.mp ⟨settings', loaded'⟩))
      cases loaded.symm.trans loaded'
  | ok settings =>
    obtain ⟨settings', loaded'⟩ := loads'.mpr (typed.mp (loads.mp ⟨settings, loaded⟩))
    have equal : settings = settings' := by
      refine eq_of_shows fun setting => ?_
      refine ⟨_, shows_of_ofDocumentOverDefaults distinct nested loaded setting, ?_⟩
      rw [same]
      exact shows_of_ofDocumentOverDefaults distinct' nested' loaded' setting
    rw [loaded', equal]

/-! ## Texts of either format -/

theorem ofText_of_read {format : SettingsFormat} {text : Text} {document : Document}
    (read : format.read? text = some document) :
    ofText format text = (ofDocumentOverDefaults document).mapError (.mismatched format) := by
  simp only [ofText, read]
  cases ofDocumentOverDefaults document <;> rfl

theorem ofText_eq_ok_iff {format : SettingsFormat} {text : Text} {document : Document}
    (read : format.read? text = some document) {settings : Settings} :
    ofText format text = .ok settings ↔ ofDocumentOverDefaults document = .ok settings := by
  rw [ofText_of_read read]
  cases ofDocumentOverDefaults document <;> simp [Except.mapError]

theorem toOption_ofText {format : SettingsFormat} {text : Text} {document : Document}
    (read : format.read? text = some document) :
    (ofText format text).toOption = (ofDocumentOverDefaults document).toOption := by
  rw [ofText_of_read read]
  cases ofDocumentOverDefaults document <;> rfl

theorem keysDistinct_of_read? {format : SettingsFormat} {text : Text} {document : Document}
    (read : format.read? text = some document) : document.KeysDistinct := by
  cases format with
  | toml => exact Toml.keysDistinct_of_read? read
  | json => exact Json.keysDistinct_of_read? read

/-- What becomes of a text that holds an object in which the settings of the cache, if it has any,
are an object too. It is loaded exactly if every setting in it has its type, and otherwise one that
has another type is reported: which one of several depends on the order of the keys. What is loaded
is, setting by setting, what the environment says, else what the text says, else the default; texts
that say the same of the settings are loaded alike, whatever else they say and in whatever order. -/
theorem ofText_precedence {format : SettingsFormat} {text : Text} {members : Members}
    (read : format.read? text = some (.object members))
    (nested : ∀ entry, members.get? cacheKey = some entry → ∃ inner, entry = .object inner) :
    ((∃ settings, ofText format text = .ok settings) ↔ Typed (.object members)) ∧
      (¬ Typed (.object members) → ∃ (setting : Setting) (entry : Document),
        setting.entry? (.object members) = some entry ∧ ¬ setting.HasType entry ∧
          ofText format text = .error (.mismatched format (setting.mismatch entry))) ∧
      (∀ settings environment, ofText format text = .ok settings →
        Follows environment (.object members) (settings.override (.ofEnvironment environment))) ∧
      ∀ (format' : SettingsFormat) (text' : Text) (members' : Members),
        format'.read? text' = some (.object members') →
        (∀ entry, members'.get? cacheKey = some entry → ∃ inner, entry = .object inner) →
        (∀ setting : Setting,
          setting.entry? (.object members') = setting.entry? (.object members)) →
        (ofText format' text').toOption = (ofText format text).toOption := by
  have distinct := keysDistinct_of_read? read
  have loads := exists_ofDocumentOverDefaults_iff distinct nested
  refine ⟨?_, ?_, ?_, ?_⟩
  · simpa only [ofText_eq_ok_iff read] using loads
  · intro untyped
    cases loaded : ofDocumentOverDefaults (.object members) with
    | ok settings => exact absurd (loads.mp ⟨settings, loaded⟩) untyped
    | error mismatch =>
      obtain ⟨setting, entry, found, refused, rfl⟩ :=
        exists_refused_of_ofDocumentOverDefaults distinct nested loaded
      refine ⟨setting, entry, found, refused, ?_⟩
      rw [ofText_of_read read, loaded]
      rfl
  · intro settings environment loaded
    have loaded := (ofText_eq_ok_iff read).mp loaded
    exact follows_override (shows_of_ofDocumentOverDefaults distinct nested loaded) environment
  · intro format' text' members' read' nested' same
    rw [toOption_ofText read, toOption_ofText read']
    exact toOption_eq_of_entries (keysDistinct_of_read? read') nested' distinct nested same

/-- Keys that are not known stand at both levels. -/
theorem ofText_precedence_unknown_keys :
    ∃ (text : Text) (members : Members) (settings : Settings),
      text = "\x7b\"x\":[],\"template\":\x7b\"y\":\"z\"\x7d,\"log_level\":\"warn\"\x7d".toList ∧
        SettingsFormat.json.read? text = some (.object members) ∧
        (∀ entry, members.get? cacheKey = some entry → ∃ inner, entry = .object inner) ∧
        Typed (.object members) ∧ ofText .json text = .ok settings ∧
        ∀ environment, Follows environment (.object members)
          (settings.override (.ofEnvironment environment)) := by
  let members : Members :=
    [(['x'], .array []), (cacheKey, .object [(['y'], .string ['z'])]),
      (logLevelKey, .string "warn".toList)]
  have read : SettingsFormat.json.read?
      "\x7b\"x\":[],\"template\":\x7b\"y\":\"z\"\x7d,\"log_level\":\"warn\"\x7d".toList =
        some (.object members) := by cbv
  have nested : ∀ entry, members.get? cacheKey = some entry → ∃ inner, entry = .object inner := by
    intro entry found
    cases found
    exact ⟨_, rfl⟩
  have typed : Typed (.object members) := by
    intro setting entry found
    cases setting with
    | logLevel =>
      cases found
      exact ⟨_, rfl⟩
    | _ => cases found
  obtain ⟨loads, _, follows, _⟩ := ofText_precedence read nested
  obtain ⟨settings, loaded⟩ := loads.mpr typed
  exact ⟨_, members, settings, rfl, read, nested, typed, loaded,
    fun environment => follows settings environment loaded⟩

end Settings

end QueryTemplate
