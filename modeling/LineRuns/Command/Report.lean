import LineRuns.Document.Value
import LineRuns.Settings.Files

/-!
# Reports of commands

What a command has to say is a list of items: lines, tables, and records that other programs
read. A report also has notes beside the output, at most one file, and an exit code. Lines, tables
and notes are for a terminal, which may find marks of its own in what they say; records are not.
-/

namespace LineRuns.Command

open Document (Value)

/-- A piece of output. -/
inductive Item
  | line (t : Text)
  | table (title : Text) (header : List Text) (rows : List (List Text))
  | record (v : Value)
  deriving Repr

/-- A note beside the output: a line, or a named result. -/
inductive Note
  | line (t : Text)
  | result (name : String) (value : Text)
  deriving Repr

/-! ## Terminals -/

/-- What a terminal shows of a text. A text may have marks in it: brackets that name a style, colons
that name a symbol, backslashes in front of either. They do not show as they are, and a text whose
marks are not well formed cannot be shown at all. -/
structure Terminal where
  shown? : Text → Option Text

namespace Terminal

/-- A terminal that has no marks, and shows every text as it is. -/
def verbatim : Terminal :=
  ⟨some⟩

/-- A line behind a label. The marks of a label are its own and complete, so that the terminal reads
what is behind it by itself. -/
def line? (terminal : Terminal) (label t : Text) : Option Item :=
  (terminal.shown? t).map fun shown => .line (label ++ shown)

/-- A table with a title. Each cell is read by itself, and the table is shown as a whole. -/
def table? (terminal : Terminal) (title : Text) (header : List Text) (rows : List (List Text)) :
    Option Item := do
  let shownTitle ← terminal.shown? title
  let shownRows ← rows.mapM fun row => row.mapM terminal.shown?
  return .table shownTitle header shownRows

/-- A note behind a label. -/
def note? (terminal : Terminal) (label t : Text) : Option Note :=
  (terminal.shown? t).map fun shown => .line (label ++ shown)

/-- A named result. -/
def result? (terminal : Terminal) (name : String) (value : Text) : Option Note :=
  (terminal.shown? value).map fun shown => .result name shown

end Terminal

/-- The pieces up to the first that cannot be shown. -/
def untilUnread {α : Type} : List (Option α) → List α
  | some piece :: rest => piece :: untilUnread rest
  | _ => []

/-! ## Reports -/

/-- All that a command leaves. -/
structure Report where
  exit : Nat
  output : List Item
  notes : List Note
  written : Option (Settings.Path × List Value)

namespace Report

/-- A report of wrong usage. -/
def usage : Report :=
  ⟨2, [], [], none⟩

/-- A report of a command that broke off after some output. -/
def brokenOff (output : List Item) : Report :=
  ⟨1, output, [], none⟩

/-- A report of items shown one by one. The command breaks off at the first that cannot be shown. -/
def showing (exit : Nat) (items : List (Option Item)) : Report :=
  if items.all Option.isSome then ⟨exit, untilUnread items, [], none⟩
  else .brokenOff (untilUnread items)

/-- A report with notes shown one by one at its end. If one cannot be shown the command breaks off
there, but the output is out and the file written. -/
def noting (report : Report) (notes : List (Option Note)) : Report :=
  { report with
    exit := if notes.all Option.isSome then report.exit else 1
    notes := untilUnread notes }

/-- A report of an error on the output. -/
def error (terminal : Terminal) (message : Text) : Report :=
  .showing 1 [terminal.line? "Error: " message]

/-- A report of an error beside the output. -/
def errorNote (terminal : Terminal) (label message : Text) : Report :=
  noting ⟨1, [], [], none⟩ [terminal.note? label message]

end Report

/-! ## Records in writing -/

mutual

/-- A value in the notation of records. Only the text of a key is shown. -/
def written : Value → Text
  | .null => "null"
  | .bool true => "true"
  | .bool false => "false"
  | .int i => Text.ofInt i
  | .double x =>
    match x.parts with
    | .nan => "NaN"
    | .infinite negative => if negative then "-Infinity" else "Infinity"
    | .finite .. => x.shown
  | .text t => inQuotes t
  | .date d => inQuotes d.text
  | .moment m => inQuotes m.text
  | .list items => "[" ++ Text.join ", " (writtenItems items) ++ "]"
  | .map entries => "\x7b" ++ Text.join ", " (writtenEntries entries) ++ "\x7d"

/-- Values in the notation of records, one by one. -/
def writtenItems : List Value → List Text
  | [] => []
  | v :: rest => written v :: writtenItems rest

/-- Entries in the notation of records, one by one. -/
def writtenEntries : List (Value × Value) → List Text
  | [] => []
  | (k, v) :: rest => (inQuotes k.title ++ ": " ++ written v) :: writtenEntries rest

/-- A text in double quotes. Quotes, backslashes and controls are escaped. -/
def inQuotes (t : Text) : Text :=
  let escape (c : CodePoint) : Text :=
    if c.val = 0x22 ∨ c.val = 0x5C then [0x5C, c]
    else if c.val = 0x0A then "\\n"
    else if c.val = 0x0D then "\\r"
    else if c.val = 0x09 then "\\t"
    else if c.val = 0x08 then "\\b"
    else if c.val = 0x0C then "\\f"
    else if c.val < 0x20 then "\\u" ++ Text.hexDigits 4 c.val
    else [c]
  0x22 :: t.flatMap escape ++ [0x22]

end

/-! ## Output that can be written -/

/-- Whether a text can be written: surrogates have no octets. -/
def canWrite (t : Text) : Bool :=
  !t.any CodePoint.isSurrogate

/-- Whether an item can be written. -/
def Item.canWrite : Item → Bool
  | .line t => Command.canWrite t
  | .table title header rows =>
    Command.canWrite title && header.all Command.canWrite && rows.all (·.all Command.canWrite)
  | .record v => Command.canWrite (written v)

/-- A report breaks off at the first item that cannot be written. -/
def Report.checked (report : Report) : Report :=
  if report.output.all Item.canWrite then report
  else .brokenOff (report.output.takeWhile Item.canWrite)

end LineRuns.Command
