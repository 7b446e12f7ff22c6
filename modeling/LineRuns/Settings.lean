import LineRuns.Document.Reading
import LineRuns.Document.Value
import LineRuns.Number.Binary64
import LineRuns.Script
import LineRuns.Settings.Files
import LineRuns.Text.Octets

/-!
# Settings

What settings are, how they are read from a mapping, and where the mapping is kept.
-/

namespace LineRuns.Settings

/-! ## Settings of a mapping

Settings are read from a mapping. What it does not name has a default; what it names must be a
setting and hold a value that fits. The first fault counts: unknown settings, then the known
ones in a fixed order. Besides faults of the settings there are values that a check cannot even
look at; they are errors of their own.
-/

open Document (Value)
open Number (Binary64)

/-! ### Log levels -/

/-- How much is logged, from most to least. -/
inductive LogLevel
  | debug
  | info
  | warning
  | error
  | critical
  deriving DecidableEq, Repr

namespace LogLevel

/-- All levels. -/
def all : List LogLevel :=
  [debug, info, warning, error, critical]

/-- The name of a level, in upper case. -/
def name : LogLevel → String
  | debug => "DEBUG"
  | info => "INFO"
  | warning => "WARNING"
  | error => "ERROR"
  | critical => "CRITICAL"

/-- The number of a level. -/
def number : LogLevel → Nat
  | debug => 10
  | info => 20
  | warning => 30
  | error => 40
  | critical => 50

/-- The upper case of a letter as far as it can be in a name: ASCII letters, and the dotless i,
whose upper case is the ASCII letter. Any other letter is in no name in either case. -/
def upper (c : CodePoint) : CodePoint :=
  if h : 0x61 ≤ c.val ∧ c.val ≤ 0x7A then ⟨c.val - 0x20, by omega⟩
  else if c.val = 0x131 then 0x49 else c

/-- The level that a text names in either case. -/
def ofText? (t : Text) : Option LogLevel :=
  all.find? fun level => Text.ofString level.name == t.map upper

end LogLevel

/-! ### Errors -/

/-- Why a mapping is no settings. The last seven are not about what a setting may be: unknown
settings that have no order, because of their kinds or because of dates and moments among them, a
language that cannot be looked up, a size that has no double, a path that is none, and a value
that cannot be put in words. -/
inductive SettingsError
  | unknownSetting (key : Value)
  | logLevel (given : Value)
  | language (given : Value)
  | jobs
  | fontSize
  | noOrder (later earlier : Value)
  | dateAndMoment
  | someOffsets
  | notHashable (given : Value)
  | sizeTooLarge
  | notPath (given : Value)
  | tooManyDigits
  deriving Repr

/-- The wording of a settings error. -/
def SettingsError.message : SettingsError → Text
  | .unknownSetting key => key.title ++ ": unknown setting"
  | .logLevel given =>
    "log_level: must be one of " ++
      Text.join ", " (LogLevel.all.map fun level => Text.ofString level.name) ++ ", got " ++
      given.description
  | .language given => "language: unknown language code " ++ given.description
  | .jobs => "jobs: must be at least 1"
  | .fontSize => "font_size: must be greater than 0"
  | .noOrder later earlier =>
    "'<' not supported between instances of " ++ Text.quoted (later.fullKind : Text) ++ " and " ++
      Text.quoted (earlier.fullKind : Text)
  | .dateAndMoment => "can't compare datetime.datetime to datetime.date"
  | .someOffsets => "can't compare offset-naive and offset-aware datetimes"
  | .notHashable given => "unhashable type: " ++ Text.quoted (given.kind : Text)
  | .sizeTooLarge => "int too large to convert to float"
  | .notPath given =>
    "expected str, bytes or os.PathLike object, not " ++ Text.ofString given.kind
  | .tooManyDigits =>
    "Exceeds the limit (4300 digits) for integer string conversion; " ++
      "use sys.set_int_max_str_digits() to increase the limit"

/-- An error whose wording shows a value that cannot be put in words is an error of its own. -/
def SettingsError.checked (e : SettingsError) : SettingsError :=
  match e with
  | .unknownSetting v | .logLevel v | .language v => if v.isDescribable then e else .tooManyDigits
  | _ => e

end Settings

/-- All settings. Whether runs are shown in visual order is decided by the truth of a value that
may be of any kind. -/
structure Settings where
  logLevel : Settings.LogLevel
  language : Text
  visualOrder : Document.Value
  jobs : Nat
  fontSize : Number.Binary64
  fontPath : Option Settings.Path

namespace Settings

open Document (Value)
open Number (Binary64)

/-! ### Reading single settings -/

/-- The names of all settings. -/
def names : List String :=
  ["log_level", "language", "visual_order", "jobs", "font_size", "font_path"]

/-- The value entered under a name, or a default. -/
def lookup (entries : List (Value × Value)) (name : String) (default : Value) : Value :=
  match entries.find? fun entry => entry.1.sameKey (.text name) with
  | some entry => entry.2
  | none => default

/-- A log level is given by its name. -/
def readLogLevel (given : Value) : Except SettingsError LogLevel :=
  match given with
  | .text t =>
    match LogLevel.ofText? t with
    | some level => .ok level
    | none => .error (.logLevel given)
  | _ => .error (.logLevel given)

/-- A language is given by one of the codes. -/
def readLanguage (given : Value) : Except SettingsError Text :=
  match given with
  | .text t => if (Language.index? t).isSome then .ok t else .error (.language given)
  | .list _ | .map _ => .error (.notHashable given)
  | _ => .error (.language given)

/-- A number of jobs is a whole number from one on. -/
def readJobs (given : Value) : Except SettingsError Nat :=
  match given with
  | .int i => if i < 1 then .error .jobs else .ok i.toNat
  | _ => .error .jobs

/-- A font size is any number that is not at most zero; true counts as one. -/
def readFontSize (given : Value) : Except SettingsError Binary64 :=
  let ofWhole (i : Int) : Except SettingsError Binary64 :=
    if i ≤ 0 then .error .fontSize
    else
      match Binary64.ofInt? i with
      | some x => .ok x
      | none => .error .sizeTooLarge
  match given with
  | .bool b => ofWhole (if b then 1 else 0)
  | .int i => ofWhole i
  | .double x => if x.isAtMostZero then .error .fontSize else .ok x
  | _ => .error .fontSize

/-- A font path is a text, or nothing; it may start in the home directory. -/
def readFontPath (home : Path) (given : Value) : Except SettingsError (Option Path) :=
  match given with
  | .null => .ok none
  | .text t => .ok (some ((Path.ofText t).expanded home))
  | _ => .error (.notPath given)

/-! ### Unknown settings -/

/-- Whether one key comes before another: texts by code points, numbers by size, dates and moments
by time. Other keys have no order. -/
def isBefore (a b : Value) : Except SettingsError Bool :=
  match a, b with
  | .text s, .text t => .ok (Text.isBefore s t)
  | .date d, .date e => .ok (decide (d.daysBefore < e.daysBefore))
  | .moment m, .moment n =>
    if m.offset.isSome == n.offset.isSome then .ok (decide (m.instant < n.instant))
    else .error .someOffsets
  | .date _, .moment _ | .moment _, .date _ => .error .dateAndMoment
  | _, _ =>
    match a.rank?, b.rank? with
    | some p, some q => .ok (p.isLess q)
    | _, _ => .error (.noOrder a b)

/-- The least of keys, of which `least` is the least so far. -/
def leastKey (least : Value) : List Value → Except SettingsError Value
  | [] => .ok least
  | key :: rest => do
    if ← isBefore key least then leastKey key rest else leastKey least rest

/-- Fails if a key is not the name of a setting. -/
def checkNames (entries : List (Value × Value)) : Except SettingsError Unit :=
  let known (key : Value) : Bool := names.any fun name => key.sameKey (.text name)
  match (entries.map Prod.fst).filter fun key => !known key with
  | [] => .ok ()
  | key :: rest => do
    let least ← leastKey key rest
    .error (.unknownSetting least)

/-! ### All settings -/

/-- The settings of a mapping, or the first fault. -/
def readEntries (home : Path) (entries : List (Value × Value)) :
    Except SettingsError Settings := do
  checkNames entries
  let logLevel ← readLogLevel (lookup entries "log_level" (.text "WARNING"))
  let language ← readLanguage (lookup entries "language" (.text "default"))
  let jobs ← readJobs (lookup entries "jobs" (.int 4))
  let fontSize ← readFontSize (lookup entries "font_size" (.int 16))
  let fontPath ← readFontPath home (lookup entries "font_path" .null)
  return {
    logLevel, language, jobs, fontSize, fontPath,
    visualOrder := lookup entries "visual_order" (.bool true) }

/-- The settings of a mapping. -/
def ofEntries (home : Path) (entries : List (Value × Value)) : Except SettingsError Settings :=
  -- A value in an error may also be nested too deep to be put in words: some thousand lists inside
  -- each other, which references make of few nodes (`Document.depthLimit` bounds only what is
  -- written out). How deep that is depends on what called the check, so no limit is set here.
  (readEntries home entries).mapError SettingsError.checked

/-- The settings of a mapping without entries. -/
def defaults : Settings where
  logLevel := .warning
  language := "default"
  visualOrder := .bool true
  jobs := 4
  fontSize := Binary64.ofQuotient false 16 1
  fontPath := none

end Settings

/-! ## Loading settings

Settings are kept in a file: one that is asked for, one that the environment names, or the
default one. Only the default one may be missing. A document without content sets nothing.
-/

/-! ### Where settings are -/

/-- What surrounds a program: files, the home directory, the default place of the settings, and
the place that the environment names for them. -/
structure Surroundings where
  tree : Tree
  home : Settings.Path
  settingsPath : Settings.Path
  environment : Option Text

namespace Settings

/-! ### Errors -/

/-- Why settings could not be loaded. -/
inductive LoadError
  | notFound (path : Path)
  | nameTooLong (path : Path)
  | isDirectory (path : Path)
  | notDecoded (e : Text.OctetError)
  | malformed (path : Path)
  | content (fault : Document.ContentFault)
  | notMapping
  | settings (e : SettingsError)
  deriving Repr

/-- The wording of a load error. -/
def LoadError.message : LoadError → Text
  | .notFound path => "Config file not found: " ++ path.text
  | .nameTooLong path => findMessage (some .tooLong) path
  | .isDirectory path => findMessage none path
  | .notDecoded e => e.message
  | .malformed path => "Invalid YAML in " ++ path.text
  | .content fault => fault.message
  | .notMapping => "Config root must be a mapping"
  | .settings e => e.message

/-- Whether a load error is one that the commands report as wrong usage; any other one is a
failure of its own. -/
def LoadError.isReported : LoadError → Bool
  | .notFound _ | .malformed _ | .notMapping => true
  | .settings e =>
    match e with
    | .unknownSetting _ | .logLevel _ | .language _ | .jobs | .fontSize => true
    | _ => false
  | _ => false

/-! ### Loading -/

/-- The settings of a document. -/
def ofDocument (home : Path) (document : Document.Value) : Except LoadError Settings :=
  match document with
  | .null => .ok defaults
  | .map entries => (ofEntries home entries).mapError .settings
  | _ => .error .notMapping

/-- The settings in a file that must be there. Its octets are decoded piece by piece. -/
def ofFile (around : Surroundings) (path : Path) : Except LoadError Settings := do
  match around.tree.find path.text with
  | .error .tooLong => .error (.nameTooLong path)
  | .error _ => .error (.notFound path)
  | .ok place =>
    match around.tree.read? place with
    | none => .error (.isDirectory path)
    | some octets =>
      let t ← (Text.ofFileOctets octets).mapError .notDecoded
      match Document.read (Text.withLineFeeds t) with
      | .error .malformed => .error (.malformed path)
      | .error (.content fault) => .error (.content fault)
      | .ok document => ofDocument around.home document

/-- Loads the settings: from the file asked for, else from the one that the environment names,
else from the default one if it is there. An empty name in the environment names nothing. -/
def load (around : Surroundings) (asked : Option Path) : Except LoadError Settings :=
  match asked, around.environment.filter fun name => !name.isEmpty with
  | some path, _ => ofFile around path
  | none, some name => ofFile around (Path.ofText name)
  | none, none =>
    match around.tree.find around.settingsPath.text with
    | .ok _ => ofFile around around.settingsPath
    | .error _ => .ok defaults

end Settings

end LineRuns
