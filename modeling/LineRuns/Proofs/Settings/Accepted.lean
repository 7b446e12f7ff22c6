import LineRuns.Proofs.Settings.Checks
import LineRuns.Proofs.Shape.Sizes

/-!
# Settings that were read

What settings that were read are known to be (`Constrained`): a log level and a language by their
names, a positive whole number of jobs, and the double of a size. This may be no number or an
infinity, for the check only refuses what is at most zero; so there are settings whose size no font
can have.
-/

namespace LineRuns.Settings

open Document (Value)
open Number (Amount Binary64)

variable {home : Path} {entries : List (Value × Value)} {settings : Settings}

/-- What the entries that settings were read from, and the settings, are known to be. -/
structure Constrained (entries : List (Value × Value)) (settings : Settings) : Prop where
  logLevel : ∃ t, Setting.logLevel.given entries = .text t ∧
    t.map LogLevel.upper = Text.ofString settings.logLevel.name
  language : Setting.language.given entries = .text settings.language ∧
    ∃ code ∈ Language.codes, settings.language = Text.ofString code
  jobs : Setting.jobs.given entries = .int settings.jobs ∧ 1 ≤ settings.jobs
  fontSize : IsSize (Setting.fontSize.given entries) settings.fontSize

theorem readEntries_of_ofEntries (h : ofEntries home entries = .ok settings) :
    readEntries home entries = .ok settings := by
  rw [ofEntries] at h
  cases hread : readEntries home entries with
  | ok found =>
    rw [hread] at h
    exact h
  | error e =>
    rw [hread] at h
    cases h

theorem constrained_of_ofEntries (h : ofEntries home entries = .ok settings) :
    Constrained entries settings := by
  have hread := readEntries_of_ofEntries h
  simp only [readEntries, bind_eq_ok_iff] at hread
  obtain ⟨-, -, level, hlevel, language, hlanguage, jobs, hjobs, size, hsize, path, -, hsettings⟩ :=
    hread
  cases hsettings
  exact ⟨readLogLevel_eq_ok_iff.mp hlevel, readLanguage_eq_ok_iff.mp hlanguage,
    readJobs_eq_ok_iff.mp hjobs, readFontSize_eq_ok_iff.mp hsize⟩

/-- A size is positive, or no number. -/
theorem isPositive_of_isSize {v : Value} {x : Binary64} (h : IsSize v x) :
    x.parts = .nan ∨ x.IsPositive := by
  cases v with
  | bool b => exact .inr (Binary64.isPositive_of_ofInt? one_pos h.2)
  | int i => exact .inr (Binary64.isPositive_of_ofInt? h.1 h.2)
  | double y =>
    obtain ⟨rfl, hy⟩ := h
    exact hy
  | _ => exact h.elim

/-- Entries for nothing but a size. -/
def onlySize (x : Binary64) : List (Value × Value) :=
  [(.text "font_size", .double x)]

/-- The sizes of settings that were read are all positive doubles, and what is no number. -/
theorem exists_fontSize_iff (home : Path) (x : Binary64) :
    (∃ entries settings, ofEntries home entries = .ok settings ∧ settings.fontSize = x) ↔
      x.parts = .nan ∨ x.IsPositive := by
  constructor
  · rintro ⟨entries, settings, h, rfl⟩
    exact isPositive_of_isSize (constrained_of_ofEntries h).fontSize
  · intro hx
    have hread : readFontSize (.double x) = .ok x := readFontSize_eq_ok_iff.mpr ⟨rfl, hx⟩
    refine ⟨onlySize x, { defaults with fontSize := x }, ?_, rfl⟩
    show (readFontSize (.double x) >>= fun size => _).mapError _ = _
    rw [hread]
    rfl

/-- Settings that were read are constrained, but their size may be no number, and a font can have
it only if it is finite and below a bound. -/
theorem ofEntries_constraints (h : ofEntries home entries = .ok settings) :
    Constrained entries settings ∧
    (settings.fontSize.parts = .nan ∨ settings.fontSize.IsPositive) ∧
    ((∃ u, (Amount.double settings.fontSize).units = .ok u) ↔
      settings.fontSize.IsWithin (2 ^ 1008)) ∧
    ∀ font : Shape.Font, (∃ scaled, font.atSize (.double settings.fontSize) = .ok scaled) ↔
      settings.fontSize.IsWithin (2 ^ 15) := by
  have hconstrained := constrained_of_ofEntries h
  have hpositive := isPositive_of_isSize hconstrained.fontSize
  exact ⟨hconstrained, hpositive, Amount.exists_units_iff,
    fun font => font.exists_atSize_iff hpositive⟩

/-- Entries for a log level in lower case and a whole size. -/
def wholeSize : List (Value × Value) :=
  [(.text "log_level", .text "info"), (.text "font_size", .int 24)]

theorem ofEntries_constraints_wholeSize :
    ∃ settings, ofEntries ⟨[], []⟩ wholeSize = .ok settings ∧ Constrained wholeSize settings ∧
      settings.fontSize.IsPositive ∧
      ∃ scaled, Shape.Font.specimen.atSize (.double settings.fontSize) = .ok scaled := by
  have hread : ofEntries ⟨[], []⟩ wholeSize =
      .ok { defaults with logLevel := .info, fontSize := .ofQuotient false 24 1 } := by
    rfl
  obtain ⟨hconstrained, hpositive, -, hfont⟩ := ofEntries_constraints hread
  refine ⟨_, hread, hconstrained, hpositive.resolve_left (by decide), ?_⟩
  exact (hfont Shape.Font.specimen).mpr ⟨_, _, rfl, by decide⟩

/-- What is no number is accepted for a size although it is not positive, and an infinity is
although it has no units. -/
theorem onlySize_accepted :
    (∃ settings, ofEntries ⟨[], []⟩ (onlySize .nan) = .ok settings ∧
      ¬settings.fontSize.IsPositive ∧ ¬∃ u, (Amount.double settings.fontSize).units = .ok u) ∧
    ∃ settings, ofEntries ⟨[], []⟩ (onlySize (.infinity false)) = .ok settings ∧
      ¬∃ u, (Amount.double settings.fontSize).units = .ok u := by
  have hnan : Binary64.nan.parts = .nan := by decide
  have hnanUnits : (Amount.double .nan).units = .error .notANumber := by rfl
  have hinfinityUnits : (Amount.double (.infinity false)).units = .error .infinite := by rfl
  refine ⟨⟨{ defaults with fontSize := .nan }, rfl, ?_, ?_⟩,
    ⟨{ defaults with fontSize := .infinity false }, rfl, ?_⟩⟩
  · simp [Binary64.IsPositive, hnan, Number.Parts.IsPositive]
  · simp [hnanUnits]
  · simp [hinfinityUnits]

end LineRuns.Settings
