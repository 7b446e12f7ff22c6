import LineRuns.Proofs.Settings.Checks

/-!
# Messages of refused settings

A refusal that is reported says which setting it is about: its message is the name of an unknown
setting, or of the one whose value does not fit, and a reason behind it. The defaults are refused
for nothing.
-/

namespace LineRuns.Settings

open Document (Value)

variable {home : Path} {entries : List (Value × Value)} {e : SettingsError}

/-! ## Defaults -/

theorem Setting.fits_default (setting : Setting) : setting.Fits setting.default := by
  cases setting with
  | logLevel => exact ⟨.warning, by decide, by decide⟩
  | language => exact ⟨"default", by decide, rfl⟩
  | jobs => exact (by decide : (1 : Int) ≤ 4)
  | fontSize => exact exists_isSize_iff.mp ⟨_, by decide, rfl⟩
  | fontPath => trivial

/-- Entries for nothing fit, and what they are read as is the defaults. -/
theorem ofEntries_nil (home : Path) : AllFit [] ∧ ofEntries home [] = .ok defaults :=
  ⟨⟨rfl, Setting.fits_default⟩, rfl⟩

/-! ## Messages -/

/-- A text is the name of something, with a reason behind it. -/
def Names (message field : Text) : Prop :=
  ∃ reason, message = field ++ ": " ++ reason

theorem Setting.names_message {setting : Setting} {v : Value} (h : ¬setting.IsBeyond v) :
    Names (setting.error v).message (Text.ofString setting.name) := by
  cases setting with
  | logLevel => exact ⟨_, rfl⟩
  | language =>
    have hkey : v.isKey = true := by
      simpa using fun hkey => h (.inl hkey)
    rw [Setting.error, if_pos hkey]
    exact ⟨_, rfl⟩
  | jobs => exact ⟨_, rfl⟩
  | fontSize =>
    have herror : fontSize.error v = .fontSize := by
      cases v with
      | int i => exact if_neg h
      | _ => rfl
    rw [herror]
    exact ⟨_, rfl⟩
  | fontPath => exact absurd trivial h

theorem names_unknownSetting (key : Value) :
    Names (SettingsError.unknownSetting key).message key.title :=
  ⟨"unknown setting", by rw [List.append_assoc]; rfl⟩

/-! ## Where errors come from -/

/-- What is reported shows what it is about. -/
theorem SettingsError.checked_of_not_breaksOff (h : ¬e.BreaksOff) : e.checked = e := by
  rw [SettingsError.breaksOff_iff] at h
  cases e with
  | unknownSetting v | logLevel v | language v => exact if_pos (by simpa using h)
  | _ => rfl

theorem checkNames_error (h : checkNames entries = .error e) (hreported : ¬e.BreaksOff) :
    ∃ key ∈ unknownKeys entries, e = .unknownSetting key := by
  rw [checkNames_eq] at h
  cases hunknown : unknownKeys entries with
  | nil =>
    rw [hunknown] at h
    cases h
  | cons key rest =>
    simp only [hunknown] at h
    cases hleast : leastKey key rest with
    | ok least =>
      rw [hleast] at h
      cases h
      exact ⟨least, leastKey_mem hleast, rfl⟩
    | error e' =>
      rw [hleast] at h
      cases h
      obtain ⟨-, found, hfound⟩ | ⟨-, hbreak⟩ := leastKey_outcome key rest
      · rw [hleast] at hfound
        cases hfound
      · rw [hleast, breaksOff_error_iff] at hbreak
        exact absurd hbreak hreported

theorem checkValues_error {settings : List Setting}
    (h : checkValues home entries settings = .error e) :
    ∃ setting ∈ settings, ¬setting.Fits (setting.given entries) ∧
      e = setting.error (setting.given entries) := by
  induction settings with
  | nil => cases h
  | cons setting rest ih =>
    obtain ⟨-, hcheck⟩ | ⟨hmisfit, hcheck⟩ :=
      Setting.check_outcome home setting (setting.given entries)
    · rw [checkValues, hcheck] at h
      obtain ⟨s, hs, hfault⟩ := ih h
      exact ⟨s, List.mem_cons_of_mem _ hs, hfault⟩
    · rw [checkValues, hcheck] at h
      cases h
      exact ⟨setting, List.mem_cons_self, hmisfit, rfl⟩

/-- The message of a refusal names an unknown setting, or a setting whose value does not fit. -/
theorem names_of_isReported (h : ofEntries home entries = .error e)
    (hreported : (LoadError.settings e).isReported = true) :
    (∃ key ∈ unknownKeys entries, Names e.message key.title) ∨
      ∃ setting : Setting, ¬setting.Fits (setting.given entries) ∧
        Names e.message (Text.ofString setting.name) := by
  rw [ofEntries] at h
  cases hread : readEntries home entries with
  | ok settings =>
    rw [hread] at h
    cases h
  | error found =>
    rw [hread] at h
    cases h
    have hfound : ¬found.BreaksOff := by simpa [SettingsError.BreaksOff] using hreported
    rw [SettingsError.checked_of_not_breaksOff hfound]
    have hchecks : (readEntries home entries).map (fun _ => ()) = .error found :=
      map_eq_error_iff.mpr hread
    rw [readEntries_eq_checks] at hchecks
    cases hnames : checkNames entries with
    | error e' =>
      rw [hnames] at hchecks
      cases hchecks
      obtain ⟨key, hkey, rfl⟩ := checkNames_error hnames hfound
      exact .inl ⟨key, hkey, names_unknownSetting key⟩
    | ok u =>
      rw [hnames] at hchecks
      obtain ⟨setting, -, hmisfit, rfl⟩ := checkValues_error hchecks
      rw [Setting.breaksOff_error_iff] at hfound
      exact .inr ⟨setting, hmisfit, Setting.names_message hfound⟩

end LineRuns.Settings
