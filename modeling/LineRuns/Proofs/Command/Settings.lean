import LineRuns.Command.Run
import LineRuns.Proofs.Settings.Checks

/-!
# What commands make of settings

A mapping of settings is read, or refused, or breaks the reading off. The commands report a refusal
as wrong usage, but break off where the reading does. Values may be nested as deep as they like:
that a program may run out of room for calls when it puts a very deep one in words is not part of
the settings (`Settings.ofEntries`), and so of none of these outcomes.
-/

namespace LineRuns.Command

open Document (Value)
open Settings (Path LoadError AllFit FirstFaultIsBeyond ofEntries)

/-- The document in a file is a mapping with these entries. -/
def Holds (world : World) (path : Path) (entries : List (Value × Value)) : Prop :=
  ∃ place octets t, world.tree.find path.text = .ok place ∧ world.tree.read? place = some octets ∧
    Text.ofFileOctets octets = .ok t ∧
    Document.read (Text.withLineFeeds t) = .ok (.map entries)

/-- Words that name a command, whose settings are those of a file with a mapping. -/
def ReadsMapping (world : World) (words : List Text) (entries : List (Value × Value)) : Prop :=
  ∃ parsed name rest command path, parseShared world words = .ok parsed ∧
    parsed.arguments = name :: rest ∧ command? world name = some command ∧
    Settings.load world.toSurroundings ((parsed.value? "--config").map Path.ofText) =
      Settings.ofFile world.toSurroundings path ∧
    Holds world path entries

variable {world : World} {words : List Text} {entries : List (Value × Value)}

theorem ofFile_of_holds {path : Path} (h : Holds world path entries) :
    Settings.ofFile world.toSurroundings path =
      (ofEntries world.home entries).mapError .settings := by
  obtain ⟨place, octets, t, hfind, hread, hdecode, hdocument⟩ := h
  simp only [Settings.ofFile, hfind, hread, hdecode, Except.mapError, bind, Except.bind, hdocument]
  rfl

/-- A command whose settings are refused is used wrongly, or breaks off. -/
theorem run_of_error (h : ReadsMapping world words entries) {e : Settings.SettingsError}
    (he : ofEntries world.home entries = .error e) :
    run world words = if (LoadError.settings e).isReported then .usage else .brokenOff [] := by
  obtain ⟨parsed, name, rest, command, path, hparsed, harguments, hcommand, hload, hholds⟩ := h
  simp only [run, hparsed, harguments, hcommand, hload, ofFile_of_holds hholds, he]
  rfl

/-- What a mapping of settings comes to. It is read if all in it fits. Otherwise it is refused and
the commands report wrong usage, unless its first fault is beyond the check: then reading it breaks
off, and so do the commands. -/
theorem mapping_outcome (home : Path) (entries : List (Value × Value)) :
    ((∃ settings, ofEntries home entries = .ok settings) ↔ AllFit entries) ∧
    ((∃ e, ofEntries home entries = .error e ∧ (LoadError.settings e).isReported = true) ↔
      ¬AllFit entries ∧ ¬FirstFaultIsBeyond entries) ∧
    ((∃ e, ofEntries home entries = .error e ∧ (LoadError.settings e).isReported = false) ↔
      FirstFaultIsBeyond entries) ∧
    ∀ world words, world.home = home → ReadsMapping world words entries → ¬AllFit entries →
      (FirstFaultIsBeyond entries → run world words = .brokenOff []) ∧
      (¬FirstFaultIsBeyond entries → run world words = .usage) := by
  obtain ⟨hok, hbreaks⟩ := Settings.readEntries_outcome home entries
  rw [← hok, ← hbreaks]
  cases hread : Settings.readEntries home entries with
  | ok settings =>
    have hof : ofEntries home entries = .ok settings := by
      rw [ofEntries, hread]
      rfl
    simp [hof]
  | error e =>
    have hof : ofEntries home entries = .error e.checked := by
      rw [ofEntries, hread]
      rfl
    have hbreak : e.BreaksOff ↔ (LoadError.settings e.checked).isReported = false := Iff.rfl
    simp only [hof, Except.error.injEq, reduceCtorEq, exists_false, exists_eq_left',
      Settings.breaksOff_error_iff, hbreak, not_false_eq_true, true_and, Bool.not_eq_false,
      forall_true_left]
    rintro world words rfl hreads
    have hrun := run_of_error hreads hof
    exact ⟨fun h => by simpa [h] using hrun, fun h => by simpa [h] using hrun⟩

/-- A list for the language. -/
def listedLanguage : List (Value × Value) :=
  [(.text "language", .list [.text "en"])]

/-- A program whose settings are a list for the language. -/
def listedLanguageWorld : World where
  tree := ⟨[(⟨[], ["home.yaml"]⟩,
    (Text.ofString "language: [en]\n").map fun c => UInt8.ofNat c.val)], []⟩
  home := ⟨"/", ["home"]⟩
  settingsPath := ⟨[], ["home.yaml"]⟩
  environment := none
  fonts := []

/-- Whether the document that was read is a list for the language. -/
def isListedLanguage : Document.Result Value → Bool
  | .ok (.map [(.text name, .list [.text code])]) => name == "language" && code == "en"
  | _ => false

theorem eq_of_isListedLanguage {r : Document.Result Value} (h : isListedLanguage r = true) :
    r = .ok (.map listedLanguage) := by
  unfold isListedLanguage at h
  split at h
  · next name code =>
    rw [Bool.and_eq_true, beq_iff_eq, beq_iff_eq] at h
    rw [h.1, h.2]
    rfl
  · cases h

theorem holds_listedLanguage :
    Holds listedLanguageWorld ⟨[], ["home.yaml"]⟩ listedLanguage := by
  have hdocument :
      isListedLanguage (Document.read (Text.withLineFeeds "language: [en]\n")) = true := by
    decide +kernel
  exact ⟨⟨[], ["home.yaml"]⟩, _, "language: [en]\n", by rfl, by rfl, by rfl,
    eq_of_isListedLanguage hdocument⟩

theorem readsMapping_listedLanguage :
    ReadsMapping listedLanguageWorld ["itemize", "a"] listedLanguage :=
  ⟨_, _, _, _, _, by rfl, by rfl, by rfl, by rfl, holds_listedLanguage⟩

theorem ofEntries_listedLanguage :
    ofEntries listedLanguageWorld.home listedLanguage =
      .error (.notHashable (.list [.text "en"])) := by
  rfl

theorem mapping_outcome_listedLanguage :
    (∃ e, ofEntries listedLanguageWorld.home listedLanguage = .error e ∧
      (LoadError.settings e).isReported = false) ∧
    run listedLanguageWorld ["itemize", "a"] = .brokenOff [] := by
  obtain ⟨hok, -, hbreaks, hrun⟩ := mapping_outcome listedLanguageWorld.home listedLanguage
  have herror : ∃ e, ofEntries listedLanguageWorld.home listedLanguage = .error e ∧
      (LoadError.settings e).isReported = false :=
    ⟨_, ofEntries_listedLanguage, rfl⟩
  have hmisfit : ¬AllFit listedLanguage := by
    rw [← hok, ofEntries_listedLanguage]
    simp
  have hreads := hrun listedLanguageWorld ["itemize", "a"] rfl readsMapping_listedLanguage hmisfit
  exact ⟨herror, hreads.1 (hbreaks.mp herror)⟩

/-- A list for the language is neither read nor reported, and the command that reads it does not
report wrong usage. -/
theorem listedLanguage_not_reported :
    ¬((∃ settings, ofEntries listedLanguageWorld.home listedLanguage = .ok settings) ∨
      ∃ e, ofEntries listedLanguageWorld.home listedLanguage = .error e ∧
        (LoadError.settings e).isReported = true) ∧
    run listedLanguageWorld ["itemize", "a"] ≠ .usage := by
  constructor
  · rw [ofEntries_listedLanguage]
    simp [LoadError.isReported]
  · have hexit : (run listedLanguageWorld ["itemize", "a"]).exit = 1 := by
      rw [run_of_error readsMapping_listedLanguage ofEntries_listedLanguage]
      rfl
    intro husage
    rw [husage] at hexit
    cases hexit

end LineRuns.Command
