import QueryTemplate.Proofs.Shapes
import QueryTemplate.Proofs.WrittenDocuments

/-! Settings that were stored are the settings that are loaded. The document of any settings gives
every one of them, so that no default is left in what it is laid over. -/

set_option autoImplicit false

namespace QueryTemplate

namespace CacheSettings

theorem isExact_toDocument (settings : CacheSettings) : settings.toDocument.IsExact 1 := by
  refine .object (show keys.Nodup by decide) ?_
  rw [List.forall_mem_cons, List.forall_mem_singleton]
  exact ⟨.boolean, .whole⟩

end CacheSettings

namespace Settings

theorem isExact_toDocument (settings : Settings) : settings.toDocument.IsExact 2 := by
  refine .object (show keys.Nodup by decide) ?_
  rw [List.forall_mem_cons, List.forall_mem_cons, List.forall_mem_singleton]
  exact ⟨.boolean, .string, settings.cache.isExact_toDocument⟩

theorem read?_toJson (settings : Settings) :
    SettingsFormat.json.read? settings.toJson = some settings.toDocument :=
  Json.read?_write settings.isExact_toDocument (by decide)

theorem shows_toDocument (settings : Settings) (setting : Setting) :
    setting.Shows settings ((setting.given? settings.toDocument).getD setting.standard) := by
  cases setting with
  | cacheCapacity => exact ⟨_, rfl, rfl⟩
  | _ => rfl

theorem ofDocument_toDocument (settings : Settings) :
    ofDocument settings.toDocument = .ok settings := by
  have shaped : WellShaped settings.toDocument := by
    refine ⟨.inl ⟨_, rfl⟩, fun cached found => ?_⟩
    cases found
    exact .inl ⟨_, rfl⟩
  exact (ofDocument_eq_ok_iff_shows settings.keysDistinct_toDocument).mpr
    ⟨shaped, settings.shows_toDocument⟩

/-- Settings give every setting, so that no default shows through what they are laid over. -/
theorem entry?_merge_toDocument (settings : Settings) (setting : Setting) :
    setting.entry? ((toDocument {}).merge settings.toDocument) =
      setting.entry? settings.toDocument := by
  have nested (entry : Document) (found : Members.get? cacheKey
      [(debugKey, .boolean settings.debug), (logLevelKey, .string settings.logLevel),
        (cacheKey, settings.cache.toDocument)] = some entry) : ∃ inner, entry = .object inner := by
    cases found
    exact ⟨_, rfl⟩
  refine (entry?_merge_defaults settings.keysDistinct_toDocument nested setting).trans ?_
  cases setting <;> rfl

/-- Settings are loaded from their JSON form as they were, and no default takes the place of
anything that they say. -/
theorem ofText_toJson (settings : Settings) :
    ofText .json settings.toJson = .ok settings ∧
      ∀ setting : Setting, setting.entry? ((toDocument {}).merge settings.toDocument) =
        setting.entry? settings.toDocument :=
  ⟨(ofText_eq_ok_iff_ofDocument settings.read?_toJson).mpr settings.ofDocument_toDocument,
    settings.entry?_merge_toDocument⟩

end Settings

end QueryTemplate
