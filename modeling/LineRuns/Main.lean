import LineRuns.Command.Run

/-!
# The program

The outermost layer: it reads the files that the words name, runs the command on them, and
prints and writes what the report holds. One font is built in, under the name `specimen`.
-/

namespace LineRuns.Program

open Settings (Path)

/-! ## Reading -/

/-- The octets of a file, if it can be read. -/
def readFile? (name : String) : IO (Option (List UInt8)) := do
  try
    let octets ← IO.FS.readBinFile name
    return some octets.toList
  catch _ => return none

/-- The names of files that a word may give: itself, and what follows an equals sign in it. -/
def namesIn (word : String) : List String :=
  word :: ("=".intercalate ((word.splitOn "=").drop 1) :: []).filter (!·.isEmpty)

/-- The files with these names that are there. -/
def readFiles (names : List String) : IO (List (Path × List UInt8)) := do
  let mut files := []
  for name in names do
    if let some octets ← readFile? name then
      files := (Path.ofText (Text.ofString name), octets) :: files
  return files

/-! ## Printing -/

/-- A text without surrogates as a `String`. -/
def shown (t : Text) : String :=
  String.ofList (t.map fun c => Char.ofNat c.val)

/-- A cell filled up to a width. -/
def fill (width : Nat) (cell : Text) : Text :=
  cell ++ List.replicate (width - cell.length) 0x20

/-- The lines of a table, its columns as wide as their widest cells. -/
def tableLines (title : Text) (header : List Text) (rows : List (List Text)) : List Text :=
  let widths := header.mapIdx fun i name =>
    (rows.map fun row => (row[i]?.getD []).length).foldl max name.length
  let line (cells : List Text) : Text :=
    Text.join "  " (widths.mapIdx fun i width => fill width (cells[i]?.getD []))
  title :: line header :: rows.map line

/-- The lines of an item. -/
def itemLines : Command.Item → List Text
  | .line t => [t]
  | .record v => [Command.written v]
  | .table title header rows => tableLines title header rows

/-- The line of a note. -/
def noteLine : Command.Note → Text
  | .line t => t
  | .result name value => "  " ++ Text.ofString name ++ ": " ++ value

/-! ## Running -/

/-- What surrounds the program when it is run with these words. -/
def surroundings (words : List String) : IO Command.World := do
  let home := (← IO.getEnv "HOME").getD "/"
  let named ← IO.getEnv "TEXT_ITEMIZER_CONFIG"
  let settingsName := home ++ "/.config/text-itemizer/config.yaml"
  let names := settingsName :: named.toList ++ words.flatMap namesIn
  let path (name : String) : Path := Path.ofText (Text.ofString name)
  let specimen := (path "specimen", Shape.fileMark)
  return {
    tree := {
      files := specimen :: (← readFiles names)
      directories := words.flatMap fun word => (namesIn word).map fun name => (path name).parent }
    home := path home
    settingsPath := path settingsName
    environment := named.map Text.ofString
    fonts := [(path "specimen", Shape.Font.specimen)] }

/-- Writes the file of a report; whether that could be done. -/
def writeFile (path : Path) (records : List Document.Value) : IO Bool := do
  let body := records.flatMap fun v => Command.written v ++ [0x0A]
  try
    IO.FS.writeFile (shown path.text) (shown body)
    return true
  catch _ => return false

/-- Runs the program with its words and gives its exit code. -/
def run (words : List String) : IO UInt32 := do
  let report := Command.run (← surroundings words) (words.map Text.ofString)
  for line in report.output.flatMap itemLines do
    IO.println (shown line)
  let done ← match report.written with
    | some (path, records) => writeFile path records
    | none => pure true
  if done then
    for note in report.notes do
      IO.eprintln (shown (noteLine note))
    return UInt32.ofNat report.exit
  else return 1

end LineRuns.Program

/-- The program divides lines into runs; see `LineRuns.Command` for its commands. -/
def main (words : List String) : IO UInt32 :=
  LineRuns.Program.run words
