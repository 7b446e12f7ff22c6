import LineRuns.Batch
import LineRuns.Command.Arguments
import LineRuns.Command.Report
import LineRuns.Number.Decimal
import LineRuns.Settings
import LineRuns.Shape

/-!
# Commands

Three commands share options and settings: one divides a line, one a whole file, and one lays a
line out with a font. All they do is a function of their words and of what surrounds them.
-/

namespace LineRuns.Command

open Document (Value)
open Settings (Path)

/-- What surrounds a command: what settings need, fonts by their places, and a terminal, which has
no marks unless it is given. -/
structure World extends Surroundings where
  fonts : List (Path × Shape.Font)
  terminal : Terminal := .verbatim

/-! ## Words -/

/-- Refuses a word that has no reading. -/
def refuseUnread {α : Type} (read : Text → Option α) (word : Text) : Option Report :=
  if (read word).isSome then none else some .usage

/-- Refuses the path of a file that is not there. What can be no name at all breaks the command
off. -/
def World.refuseMissing (world : World) (word : Text) : Option Report :=
  match world.tree.find word with
  | .error .notName => some (.brokenOff [])
  | .error _ => some .usage
  | .ok place => if world.tree.hasDirectory place then some .usage else none

/-- Refuses the path of a directory for a file to be written. -/
def World.refuseDirectory (world : World) (word : Text) : Option Report :=
  match world.tree.find word with
  | .error .notName => some (.brokenOff [])
  | .error _ => none
  | .ok place => if world.tree.hasDirectory place then some .usage else none

/-! ## Records -/

/-- The entries of a record, from their names. -/
def entries (l : List (String × Value)) : Value :=
  .map (l.map fun entry => (.text entry.1, entry.2))

/-- The record of a run. -/
def runRecord (line : Line) (run : Run) : Value :=
  entries [("start", .int run.start), ("length", .int run.length), ("script", .text run.script),
    ("direction", .text run.direction.tag), ("text", .text (line.runText run))]

/-- The records of a line's runs. -/
def runRecords (line : Line) : Value :=
  .list (line.runs.map (runRecord line))

/-- The record of a line of a batch. -/
def lineRecord (r : Batch.Record) : Value :=
  entries [("line", .int r.number), ("text", .text r.line.text),
    ("degraded", .bool r.line.isDegraded), ("runs", runRecords r.line)]

/-! ## Options -/

/-- An option of its own word, without a value. -/
def flag (name : String) : OptionSpec :=
  ⟨name, none, false⟩

/-- An option with a value. -/
def valued (name : String) (letter : Option Char) : OptionSpec :=
  ⟨name, letter, true⟩

/-- The options before the name of a command. -/
def sharedOptions : List OptionSpec :=
  [valued "--config" none, valued "--log-level" none, flag "--version", flag "--help"]

/-- The options of the command for a line. -/
def itemizeOptions : List OptionSpec :=
  [flag "--logical", flag "--json", flag "--help"]

/-- The options of the command for a file. -/
def batchOptions : List OptionSpec :=
  [valued "--output" (some 'o'), valued "--jobs" (some 'j'), flag "--logical",
    flag "--continue-on-error", flag "--help"]

/-- The options of the command for a layout. -/
def shapeOptions : List OptionSpec :=
  [valued "--font" none, valued "--face-index" none, valued "--size" none,
    valued "--lang" none, flag "--help"]

/-! ## Dividing a line -/

/-- Whether a command shows visual order: the value of the setting decides, unless logical order
is asked for. -/
def visualOrder (settings : Settings) (logical : Bool) : Value :=
  if settings.visualOrder.isTrue then .bool !logical else settings.visualOrder

/-- The table of a line's runs, if the terminal can show it. -/
def runTable (terminal : Terminal) (line : Line) (visual : Bool) : Option Item :=
  let order : Text := if visual then "visual" else "logical"
  terminal.table? (Text.ofNat line.runs.length ++ " runs (" ++ order ++ " order)")
    ["Start", "Length", "Script", "Direction", "Text"]
    (line.runs.map fun run => [Text.ofInt run.start, Text.ofInt run.length, run.script,
      run.direction.tag, line.runText run])

/-- What is shown beneath the table of a line that could not be analysed. -/
def degradedWarning (terminal : Terminal) : Option Item :=
  terminal.line? "Warning: " "bidi analysis failed, output is degraded"

/-- Divides a line and shows its runs: in a record, or for a terminal. -/
def itemize (world : World) (settings : Settings) (parsed : Parsed) (t : Text) : Report :=
  match (Line.divide .standard Bidi.Context.fresh (.text t) none).2 with
  | .error (.text e) => .error world.terminal e.message
  | .error _ => .brokenOff []
  | .ok divided =>
    let visual := visualOrder settings (parsed.has "--logical")
    let line := if visual.isTrue then divided.reordered else divided
    if parsed.has "--json" then
      let record := entries [("text", .text t), ("visual", visual), ("runs", runRecords line)]
      ⟨0, [.record record], [], none⟩
    else
      let table := runTable world.terminal line visual.isTrue
      .showing 0 (if line.isDegraded then [table, degradedWarning world.terminal] else [table])

/-! ## Dividing a file -/

/-- The notes of a batch that is done: its counts, and the path of its file. -/
def batchNotes (terminal : Terminal) (output : Option Path) (summary : Batch.Summary) :
    List (Option Note) :=
  let count (name : String) (n : Nat) := terminal.result? name (Text.ofNat n)
  [some (.line "Batch complete:"), count "Lines" summary.records.length,
    count "Degraded" summary.degraded, count "Failed" summary.refused] ++
      (output.map fun path => terminal.result? "Output" path.text).toList

/-- The report of a batch. The notes come last, when its records are out. -/
def batchReport (world : World) (output : Option Path) (summary : Batch.Summary) : Report :=
  let records := summary.records.map lineRecord
  let notes := batchNotes world.terminal output summary
  match output with
  | none => Report.noting ⟨0, records.map .record, [], none⟩ notes
  | some path =>
    if world.tree.canWrite path then Report.noting ⟨0, [], [], some (path, records)⟩ notes
    else .brokenOff []

/-- Divides the lines of a file. -/
def batch (world : World) (settings : Settings) (parsed : Parsed) (input : Text) : Report :=
  let jobs : Int := ((parsed.value? "--jobs").bind Number.readInt?).getD settings.jobs
  if jobs < 1 then .errorNote world.terminal "Error: " "--jobs must be at least 1"
  else
    match (world.tree.readPath? (Path.ofText input)).map Text.ofOctets with
    | none | some (.error _) => .brokenOff []
    | some (.ok body) =>
      let visual := (visualOrder settings (parsed.has "--logical")).isTrue
      match Batch.run .standard .single visual (parsed.has "--continue-on-error") body with
      | .error .noLines => .errorNote world.terminal "Error: " "No lines to itemize"
      | .error (.refused number e) =>
        .errorNote world.terminal ("Error on line " ++ Text.ofNat number ++ ": ") e.message
      | .error (.broken _) => .brokenOff []
      | .ok summary => batchReport world ((parsed.value? "--output").map Path.ofText) summary

/-! ## Laying a line out -/

/-- Why a file is no font. -/
def fontProblem (octets : List UInt8) : Text :=
  if octets.length < 12 then "Not a TrueType or OpenType font (not enough data)"
  else "Not a TrueType or OpenType font (bad sfntVersion)"

/-- Why a line is not laid out: the path of the font is none, there is no font at it, or it has no
scale, or the line is refused, or a promise was broken on the way. -/
inductive LayoutError
  | notPath (path : Path)
  | font (path : Path) (problem : Text)
  | scale (e : Shape.ScaleError)
  | division (e : DivisionError)
  | range (e : Cursor.OutOfRange)
  deriving Repr

/-- The wording of a layout error. -/
def LayoutError.message : LayoutError → Text
  | .notPath path => Settings.findMessage (some .notName) path
  | .font path problem => "Cannot load font " ++ path.text ++ ": " ++ problem
  | .scale e => e.message
  | .division e => e.message
  | .range e => e.message

/-- A font at a size, from its path. -/
def scaledFont (world : World) (path : Path) (size : Number.Amount) :
    Except LayoutError Shape.ScaledFont :=
  match world.tree.find path.text with
  | .error .notName => .error (.notPath path)
  | .error e => .error (.font path (Settings.findMessage (some e) path))
  | .ok place =>
    match world.fonts.lookup place, world.tree.read? place with
    | some font, _ => (font.atSize size).mapError .scale
    | none, some octets => .error (.font path (fontProblem octets))
    | none, none => .error (.font path (Settings.findMessage none path))

/-- A line laid out with a font, its runs in visual order or not. -/
def layOut (font : Shape.ScaledFont) (t : Text) (visual : Bool) (fault : Option Text) :
    Except LayoutError (Line × List Shape.ShapedRun) := do
  let divided ← (Line.divide .standard Bidi.Context.fresh (.text t) fault).2.mapError .division
  let line := if visual then divided.reordered else divided
  let shaped ← (Shape.shapeLine font line).mapError .range
  return (line, shaped)

/-- The items for a run that is laid out: a table of its glyphs, and how many are missing. -/
def shapedItems (terminal : Terminal) (line : Line) (shaped : Shape.ShapedRun) :
    List (Option Item) :=
  let title := Text.quoted (line.runText shaped.run) ++ " [" ++ Text.ofString shaped.run.script ++
    ", " ++ Text.ofString shaped.run.direction.tag ++ "]"
  let row (g : Shape.Glyph) : List Text := [Text.ofNat g.id, Text.ofNat g.cluster,
    Number.withTwoPlaces g.xAdvance, Number.withTwoPlaces g.xOffset,
    Number.withTwoPlaces g.yOffset]
  let table := terminal.table? title ["Glyph", "Cluster", "X advance", "X offset", "Y offset"]
    (shaped.glyphs.map row)
  if shaped.missing = 0 then [table]
  else [table, terminal.line? "Missing glyphs: " (Text.ofNat shaped.missing)]

/-- Whether a font has a face of this number, which must be a word of 32 bits. -/
def isFace (face : Int) : Bool :=
  -Int.pow 2 31 ≤ face && face < Int.pow 2 31

/-- Lays a line out and shows its glyphs. -/
def shape (world : World) (settings : Settings) (parsed : Parsed) (t : Text) : Report :=
  let path := ((parsed.value? "--font").map Path.ofText).or settings.fontPath
  let face := ((parsed.value? "--face-index").bind Number.readInt?).getD 0
  let asked := (parsed.value? "--size").bind Number.readDouble?
  let language :=
    ((parsed.value? "--lang").filter fun word => !word.isEmpty).getD settings.language
  let size := (asked.filter fun x => !x.isZero).getD settings.fontSize
  match path with
  | none => .error world.terminal "No font given (use --font or font_path in config)"
  | some path =>
    if (Language.index? language).isNone then
      .error world.terminal ("Unknown language code " ++ Text.quoted language)
    else
      match scaledFont world path (.double size) with
      | .error (.font path problem) =>
        .error world.terminal (LayoutError.font path problem).message
      | .error _ => .brokenOff []
      | .ok font =>
        if !isFace face then .brokenOff []
        else
          match layOut font t settings.visualOrder.isTrue none with
          | .error (.division (.text e)) => .error world.terminal e.message
          | .error _ => .brokenOff []
          | .ok (line, shaped) =>
            let total := shaped.foldr (fun run total => run.width + total) 0
            let width := world.terminal.line? "Width: " (Number.withTwoPlaces total ++ "px")
            .showing 0 (shaped.flatMap (shapedItems world.terminal line) ++ [width])

/-! ## All commands -/

/-- The name and the version of the program. -/
def version : Text :=
  "text-itemizer, version 0.1.0"

/-- Whether a word names a log level in either case. -/
def isLogLevel (word : Text) : Bool :=
  Settings.LogLevel.all.any fun level =>
    Number.lowered (Text.ofString level.name) == Number.lowered word

/-- A command: its options, what it refuses as values of them and as its one argument, and its
work. -/
structure Subcommand where
  options : List OptionSpec
  checks : List (String × (Text → Option Report))
  refuseArgument : Text → Option Report
  work : Settings → Parsed → Text → Report

/-- The command of a name. -/
def command? (world : World) (name : Text) : Option Subcommand :=
  if name = Text.ofString "itemize" then
    some {
      options := itemizeOptions
      checks := []
      refuseArgument := fun _ => none
      work := itemize world }
  else if name = Text.ofString "batch" then
    some {
      options := batchOptions
      checks := [
        ("--output", world.refuseDirectory), ("--jobs", refuseUnread Number.readInt?)]
      refuseArgument := world.refuseMissing
      work := batch world }
  else if name = Text.ofString "shape" then
    some {
      options := shapeOptions
      checks := [
        ("--font", world.refuseMissing), ("--face-index", refuseUnread Number.readInt?),
        ("--size", refuseUnread Number.readDouble?)]
      refuseArgument := fun _ => none
      work := shape world }
  else none

/-- Runs a command with its words. Its help comes before all checks but those of form, and the
values of options are checked before its argument. -/
def Subcommand.run (command : Subcommand) (settings : Settings) (words : List Text) : Report :=
  match parse? command.options true words with
  | none => .usage
  | some parsed =>
    if parsed.has "--help" then ⟨0, [], [], none⟩
    else
      match parsed.refusal? command.checks, parsed.arguments with
      | some report, _ => report
      | none, [] => .usage
      | none, word :: more =>
        match command.refuseArgument word, more with
        | some report, _ => report
        | none, _ :: _ => .usage
        | none, [] => (command.work settings parsed word).checked

/-- The answer to an option that wants nothing else: the help, whose text is not part of a report,
or the version. -/
def answer? (option : String) : Option Report :=
  if option = "--help" then some ⟨0, [], [], none⟩
  else if option = "--version" then some ⟨0, [.line version], [], none⟩
  else none

/-- Parses the words of the program up to the name of a command, unless they are answered or
refused at once. -/
def parseShared (world : World) (words : List Text) : Except Report Parsed :=
  match parse? sharedOptions false words with
  | none => .error .usage
  | some parsed =>
    let checks : List (String × (Text → Option Report)) := [
      ("--config", world.refuseMissing),
      ("--log-level", fun word => if isLogLevel word then none else some .usage)]
    match (parsed.options.findSome? fun o => answer? o.1).or (parsed.refusal? checks) with
    | some report => .error report
    | none => .ok parsed

/-- Runs the program with its words: shared options, the name of a command, and its words. The
command has to be known before the settings are read, and these before its words count. Words
that name no command may still be options that are answered. -/
def run (world : World) (words : List Text) : Report :=
  match parseShared world words with
  | .error report => report
  | .ok parsed =>
    match parsed.arguments with
    | [] => .usage
    | name :: rest =>
      match command? world name with
      | none =>
        match parseShared world (name :: rest) with
        | .error report => report
        | .ok _ => .usage
      | some command =>
        let config := (parsed.value? "--config").map Path.ofText
        match Settings.load world.toSurroundings config with
        | .error e => if e.isReported then .usage else .brokenOff []
        | .ok settings => command.run settings rest

end LineRuns.Command
