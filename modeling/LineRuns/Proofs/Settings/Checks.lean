import LineRuns.Proofs.Number.Doubles
import LineRuns.Proofs.Settings.Keys

/-!
# Checks of settings

What fits a setting is said here as a demand (`Setting.Fits`), and each reading of a setting is
shown to yield a result for what fits and for nothing else. What does not fit is reported unless it
is beyond its check (`Setting.IsBeyond`).
-/

namespace LineRuns.Settings

open Document (Value)
open Number (Binary64)

/-! ## What readings yield -/

theorem LogLevel.mem_all (level : LogLevel) : level ∈ LogLevel.all := by
  cases level <;> decide

theorem LogLevel.ofString_name_injective {a b : LogLevel}
    (h : Text.ofString a.name = Text.ofString b.name) : a = b := by
  revert h
  cases a <;> cases b <;> decide

theorem LogLevel.name_of_ofText? {t : Text} {level : LogLevel}
    (h : LogLevel.ofText? t = some level) : t.map LogLevel.upper = Text.ofString level.name := by
  have hname := List.find?_some h
  exact (beq_iff_eq.mp hname).symm

theorem LogLevel.ofText?_eq_some_iff {t : Text} {level : LogLevel} :
    LogLevel.ofText? t = some level ↔ t.map LogLevel.upper = Text.ofString level.name := by
  refine ⟨LogLevel.name_of_ofText?, fun h => ?_⟩
  have hsome : (LogLevel.ofText? t).isSome = true :=
    List.find?_isSome.mpr ⟨level, level.mem_all, beq_iff_eq.mpr h.symm⟩
  obtain ⟨found, hfound⟩ := Option.isSome_iff_exists.mp hsome
  have hname := (LogLevel.name_of_ofText? hfound).symm.trans h
  rw [hfound, LogLevel.ofString_name_injective hname]

theorem readLogLevel_eq_ok_iff {v : Value} {level : LogLevel} :
    readLogLevel v = .ok level ↔
      ∃ t, v = .text t ∧ t.map LogLevel.upper = Text.ofString level.name := by
  cases v with
  | text t =>
    simp only [← LogLevel.ofText?_eq_some_iff, readLogLevel, Value.text.injEq, exists_eq_left']
    cases LogLevel.ofText? t <;> simp
  | _ => simp [readLogLevel]

theorem isSome_languageIndex?_iff {t : Text} :
    (Language.index? t).isSome = true ↔ ∃ code ∈ Language.codes, t = Text.ofString code := by
  rw [Language.index?, List.findIdx?_isSome, List.any_eq_true]
  simp only [beq_iff_eq, @eq_comm _ t]

theorem readLanguage_eq_ok_iff {v : Value} {t : Text} :
    readLanguage v = .ok t ↔ v = .text t ∧ ∃ code ∈ Language.codes, t = Text.ofString code := by
  rw [← isSome_languageIndex?_iff]
  cases v with
  | text given =>
    simp only [readLanguage, Value.text.injEq]
    constructor
    · intro h
      split at h
      · next hcode =>
        cases h
        exact ⟨rfl, hcode⟩
      · cases h
    · rintro ⟨rfl, hcode⟩
      rw [if_pos hcode]
  | _ => simp [readLanguage]

theorem readJobs_eq_ok_iff {v : Value} {n : Nat} :
    readJobs v = .ok n ↔ v = .int n ∧ 1 ≤ n := by
  cases v with
  | int i =>
    simp only [readJobs, Value.int.injEq]
    split
    · simp only [reduceCtorEq, false_iff]
      omega
    · simp only [Except.ok.injEq]
      omega
  | _ => simp [readJobs]

/-- Whether a double is the one of a font size that is given: of a positive whole number, which
true counts as, or itself a double that is positive or no number. -/
def IsSize (v : Value) (x : Binary64) : Prop :=
  match v with
  | .bool b => b = true ∧ Binary64.ofInt? 1 = some x
  | .int i => 0 < i ∧ Binary64.ofInt? i = some x
  | .double y => y = x ∧ (y.parts = .nan ∨ y.IsPositive)
  | _ => False

theorem readFontSize_int_eq_ok_iff {i : Int} {x : Binary64} :
    readFontSize (.int i) = .ok x ↔ 0 < i ∧ Binary64.ofInt? i = some x := by
  simp only [readFontSize]
  split
  · simp only [reduceCtorEq, false_iff, not_and]
    omega
  · next hpos =>
    cases Binary64.ofInt? i <;> simp [Int.not_le.mp hpos]

theorem readFontSize_eq_ok_iff {v : Value} {x : Binary64} :
    readFontSize v = .ok x ↔ IsSize v x := by
  cases v with
  | int i => exact readFontSize_int_eq_ok_iff
  | bool b =>
    have hwhole : readFontSize (.bool b) = readFontSize (.int (if b then 1 else 0)) := rfl
    rw [hwhole, readFontSize_int_eq_ok_iff]
    cases b <;> simp [IsSize]
  | double y =>
    simp only [readFontSize, IsSize, ← Binary64.isAtMostZero_eq_false_iff]
    cases y.isAtMostZero <;> simp
  | _ => simp [readFontSize, IsSize]

theorem exists_readFontPath_iff {home : Path} {v : Value} :
    (∃ path, readFontPath home v = .ok path) ↔ v = .null ∨ ∃ t, v = .text t := by
  cases v <;> simp [readFontPath]

/-! ## What fits -/

/-- The settings whose values are checked. -/
inductive Setting
  | logLevel
  | language
  | jobs
  | fontSize
  | fontPath
  deriving DecidableEq, Repr

namespace Setting

/-- All of them, in the order of their checks. -/
def all : List Setting :=
  [logLevel, language, jobs, fontSize, fontPath]

theorem mem_all (setting : Setting) : setting ∈ all := by
  cases setting <;> decide

/-- The name of a setting. -/
def name : Setting → String
  | logLevel => "log_level"
  | language => "language"
  | jobs => "jobs"
  | fontSize => "font_size"
  | fontPath => "font_path"

/-- The value of a setting that is not named. -/
def default : Setting → Value
  | logLevel => .text "WARNING"
  | language => .text "default"
  | jobs => .int 4
  | fontSize => .int 16
  | fontPath => .null

/-- The value that entries give a setting. -/
def given (entries : List (Value × Value)) (setting : Setting) : Value :=
  lookup entries setting.name setting.default

/-- Checks the value of a setting. -/
def check (home : Path) (setting : Setting) (v : Value) : Except SettingsError Unit :=
  match setting with
  | logLevel => (readLogLevel v).map fun _ => ()
  | language => (readLanguage v).map fun _ => ()
  | jobs => (readJobs v).map fun _ => ()
  | fontSize => (readFontSize v).map fun _ => ()
  | fontPath => (readFontPath home v).map fun _ => ()

/-- Whether a value fits a setting. A whole number is no size of a font if it is past the largest
double, and what is no number is one. -/
def Fits : Setting → Value → Prop
  | logLevel, .text t => ∃ level ∈ LogLevel.all, t.map LogLevel.upper = Text.ofString level.name
  | language, .text t => ∃ code ∈ Language.codes, t = Text.ofString code
  | jobs, .int i => 1 ≤ i
  | fontSize, .bool b => b = true
  | fontSize, .int i => 0 < i ∧ i.natAbs + 2 ^ 970 < 2 ^ 1024
  | fontSize, .double x => x.parts = .nan ∨ x.IsPositive
  | fontPath, .null => True
  | fontPath, .text _ => True
  | _, _ => False

/-- Whether a value that does not fit a setting is beyond its check: the error that would show it
cannot, or it cannot be looked up, or has no double, or is no path. -/
def IsBeyond : Setting → Value → Prop
  | logLevel, v => v.isDescribable = false
  | language, v => v.isKey = false ∨ v.isDescribable = false
  | jobs, _ => False
  | fontSize, .int i => 0 < i
  | fontSize, _ => False
  | fontPath, _ => True

/-- The error of a check. -/
def error (setting : Setting) (v : Value) : SettingsError :=
  match setting, v with
  | logLevel, v => .logLevel v
  | language, v => if v.isKey then .language v else .notHashable v
  | jobs, _ => .jobs
  | fontSize, .int i => if 0 < i then .sizeTooLarge else .fontSize
  | fontSize, _ => .fontSize
  | fontPath, v => .notPath v

variable {home : Path} {setting : Setting} {v : Value}

theorem exists_isSize_iff : (∃ x, IsSize v x) ↔ fontSize.Fits v := by
  have hwhole {i : Int} (h : 0 < i) :
      (∃ x, Binary64.ofInt? i = some x) ↔ i.natAbs + 2 ^ 970 < 2 ^ 1024 := by
    rw [← Option.isSome_iff_exists, ← not_iff_not, Option.not_isSome_iff_eq_none,
      Binary64.ofInt?_eq_none_iff h, not_lt]
  cases v with
  | int i =>
    simp only [IsSize, Fits, exists_and_left]
    exact and_congr_right hwhole
  | bool b =>
    have hone : ∃ x, Binary64.ofInt? 1 = some x := ⟨_, rfl⟩
    simp only [IsSize, Fits, exists_and_left, hone, and_true]
  | _ => simp [IsSize, Fits]

/-- A check passes what fits, and nothing else. -/
theorem exists_check_iff (home : Path) : (∃ u, setting.check home v = .ok u) ↔ setting.Fits v := by
  cases setting with
  | logLevel =>
    simp only [check, exists_map_eq_ok_iff, readLogLevel_eq_ok_iff]
    cases v <;> simp [Fits, LogLevel.mem_all]
  | language =>
    simp only [check, exists_map_eq_ok_iff, readLanguage_eq_ok_iff]
    cases v <;> simp [Fits, and_comm]
  | jobs =>
    simp only [check, exists_map_eq_ok_iff, readJobs_eq_ok_iff]
    cases v with
    | int i =>
      simp only [Fits, Value.int.injEq]
      exact ⟨fun ⟨n, hn⟩ => by omega, fun h => ⟨i.toNat, by omega⟩⟩
    | _ => simp [Fits]
  | fontSize =>
    simp only [check, exists_map_eq_ok_iff, readFontSize_eq_ok_iff, exists_isSize_iff]
  | fontPath =>
    simp only [check, exists_map_eq_ok_iff, exists_readFontPath_iff]
    cases v <;> simp [Fits]

theorem sizeError_of_readFontSize {e : SettingsError} (h : readFontSize v = .error e) :
    e = fontSize.error v := by
  cases v with
  | int i =>
    simp only [readFontSize] at h
    simp only [error]
    split at h
    · next hle =>
      cases h
      rw [if_neg (Int.not_lt.mpr hle)]
    · next hpos =>
      split at h <;> cases h
      rw [if_pos (Int.not_le.mp hpos)]
  | bool b =>
    cases b with
    | false =>
      cases h
      rfl
    | true => cases h
  | double x =>
    simp only [readFontSize] at h
    split at h <;> cases h
    rfl
  | _ =>
    cases h
    rfl

/-- The error of a check depends on nothing but the value. -/
theorem eq_error_of_check {e : SettingsError} (h : setting.check home v = .error e) :
    e = setting.error v := by
  cases setting <;> simp only [check, map_eq_error_iff] at h
  case logLevel =>
    unfold readLogLevel at h
    split at h
    · split at h <;> cases h
      rfl
    · cases h
      rfl
  case language =>
    unfold readLanguage at h
    split at h
    · split at h <;> cases h
      rfl
    · cases h
      rfl
    · cases h
      rfl
    · cases h
      cases v <;> simp_all [error, Value.isKey]
  case jobs =>
    unfold readJobs at h
    split at h
    · split at h <;> cases h
      rfl
    · cases h
      rfl
  case fontSize => exact sizeError_of_readFontSize h
  case fontPath =>
    unfold readFontPath at h
    split at h <;> cases h
    rfl

theorem breaksOff_error_iff : (setting.error v).BreaksOff ↔ setting.IsBeyond v := by
  rw [SettingsError.breaksOff_iff]
  cases setting with
  | language =>
    simp only [error, IsBeyond]
    cases hkey : v.isKey <;> simp
  | fontSize =>
    cases v with
    | int i =>
      simp only [error, IsBeyond]
      by_cases hpos : 0 < i <;> simp [hpos]
    | _ => simp [error, IsBeyond]
  | _ => simp [error, IsBeyond]

/-- A check passes what fits, and has one error for all else. -/
theorem check_outcome (home : Path) (setting : Setting) (v : Value) :
    (setting.Fits v ∧ setting.check home v = .ok ()) ∨
      (¬setting.Fits v ∧ setting.check home v = .error (setting.error v)) := by
  rw [← exists_check_iff home]
  cases h : setting.check home v with
  | ok u => exact .inl ⟨⟨u, rfl⟩, rfl⟩
  | error e => exact .inr ⟨by simp, by rw [eq_error_of_check h]⟩

end Setting

/-! ## All checks -/

variable (home : Path) (entries : List (Value × Value))

/-- Checks the values that entries give settings, one after another. -/
def checkValues : List Setting → Except SettingsError Unit
  | [] => .ok ()
  | setting :: rest => setting.check home (setting.given entries) >>= fun _ => checkValues rest

/-- Whether the first setting whose value does not fit has one that is beyond the check. -/
def FirstIsBeyond (settings : List Setting) : Prop :=
  ∃ before setting after, settings = before ++ setting :: after ∧
    (∀ s ∈ before, s.Fits (s.given entries)) ∧ ¬setting.Fits (setting.given entries) ∧
    setting.IsBeyond (setting.given entries)

variable {entries} in
theorem firstIsBeyond_cons_iff_of_fits {setting : Setting} {rest : List Setting}
    (h : setting.Fits (setting.given entries)) :
    FirstIsBeyond entries (setting :: rest) ↔ FirstIsBeyond entries rest := by
  constructor
  · rintro ⟨before, s, after, heq, hbefore, hmisfit, hbeyond⟩
    cases before with
    | nil =>
      cases heq
      exact absurd h hmisfit
    | cons first before =>
      cases heq
      exact ⟨before, s, after, rfl, fun t ht => hbefore t (.tail _ ht), hmisfit, hbeyond⟩
  · rintro ⟨before, s, after, rfl, hbefore, hmisfit, hbeyond⟩
    exact ⟨setting :: before, s, after, rfl, List.forall_mem_cons.mpr ⟨h, hbefore⟩, hmisfit,
      hbeyond⟩

variable {entries} in
theorem firstIsBeyond_cons_iff_of_not_fits {setting : Setting} {rest : List Setting}
    (h : ¬setting.Fits (setting.given entries)) :
    FirstIsBeyond entries (setting :: rest) ↔ setting.IsBeyond (setting.given entries) := by
  constructor
  · rintro ⟨before, s, after, heq, hbefore, hmisfit, hbeyond⟩
    cases before with
    | nil =>
      cases heq
      exact hbeyond
    | cons first before =>
      cases heq
      exact absurd (hbefore _ List.mem_cons_self) h
  · intro hbeyond
    exact ⟨[], setting, rest, rfl, by simp, h, hbeyond⟩

/-- The checks pass if all values fit, and they break off if the first one that does not fit is
beyond its check. -/
theorem checkValues_outcome (settings : List Setting) :
    ((∃ u, checkValues home entries settings = .ok u) ↔
      ∀ s ∈ settings, s.Fits (s.given entries)) ∧
    (BreaksOff (checkValues home entries settings) ↔ FirstIsBeyond entries settings) := by
  -- What fits is passed over; the first value that does not ends the checks.
  induction settings with
  | nil => simp [checkValues, FirstIsBeyond]
  | cons setting rest ih =>
    obtain ⟨hfits, hcheck⟩ | ⟨hmisfit, hcheck⟩ :=
      Setting.check_outcome home setting (setting.given entries)
    · have hrest : checkValues home entries (setting :: rest) = checkValues home entries rest := by
        rw [checkValues, hcheck]
        rfl
      rw [hrest, List.forall_mem_cons, and_iff_right hfits, firstIsBeyond_cons_iff_of_fits hfits]
      exact ih
    · have herror : checkValues home entries (setting :: rest) =
          .error (setting.error (setting.given entries)) := by
        rw [checkValues, hcheck]
        rfl
      rw [herror, List.forall_mem_cons, breaksOff_error_iff, Setting.breaksOff_error_iff,
        firstIsBeyond_cons_iff_of_not_fits hmisfit]
      simp [hmisfit]

theorem map_bind_eq_of_forall {ε α β : Type} {r : Except ε α} {f : α → Except ε β}
    {next : Except ε Unit} (h : ∀ a, (f a).map (fun _ => ()) = next) :
    (r >>= f).map (fun _ => ()) = (r.map (fun _ => ()) >>= fun _ => next) := by
  cases r with
  | error e => rfl
  | ok a => exact h a

/-- Apart from what it yields, reading settings is checking them. -/
theorem readEntries_eq_checks :
    (readEntries home entries).map (fun _ => ()) =
      (checkNames entries >>= fun _ => checkValues home entries Setting.all) := by
  cases hnames : checkNames entries with
  | error e => simp [readEntries, hnames, bind, Except.bind, Except.map]
  | ok u =>
    simp only [readEntries, hnames]
    refine map_bind_eq_of_forall fun _ => ?_
    refine map_bind_eq_of_forall fun level => ?_
    refine map_bind_eq_of_forall fun language => ?_
    refine map_bind_eq_of_forall fun jobs => ?_
    refine map_bind_eq_of_forall fun size => ?_
    exact map_bind_eq_of_forall fun path => rfl

/-! ## All settings -/

/-- Whether all keys are names of settings, and all values fit. -/
def AllFit : Prop :=
  unknownKeys entries = [] ∧ ∀ setting : Setting, setting.Fits (setting.given entries)

/-- Whether the first fault in entries is beyond its check: the least of the unknown keys is, or
there are none, and the first value that does not fit is. -/
def FirstFaultIsBeyond : Prop :=
  LeastBreaks (unknownKeys entries) ∨
    unknownKeys entries = [] ∧ FirstIsBeyond entries Setting.all

theorem readEntries_outcome :
    ((∃ settings, readEntries home entries = .ok settings) ↔ AllFit entries) ∧
      (BreaksOff (readEntries home entries) ↔ FirstFaultIsBeyond entries) := by
  obtain ⟨hnames, hnamesBreak⟩ := checkNames_outcome entries
  obtain ⟨hvalues, hvaluesBreak⟩ := checkValues_outcome home entries Setting.all
  simp only [Setting.mem_all, forall_true_left] at hvalues
  rw [← exists_map_eq_ok_iff (f := fun _ => ()), ← breaksOff_map_iff (f := fun _ => ()),
    readEntries_eq_checks, breaksOff_bind_iff, hnamesBreak, FirstFaultIsBeyond, AllFit, ← hnames,
    ← hvalues, ← hvaluesBreak]
  cases checkNames entries with
  | error e => simp [bind, Except.bind]
  | ok u => simp [bind, Except.bind]

end LineRuns.Settings
