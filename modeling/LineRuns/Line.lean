import LineRuns.Bidi.Context
import LineRuns.Run
import LineRuns.Script
import LineRuns.Text.Octets
import LineRuns.Text.Units

/-!
# Lines

What a line with runs is, and how a text becomes one.
-/

namespace LineRuns

/-! ## Texts with runs

A line is a text together with a list of runs over its code units. The units follow from the
text, so they are not part of the type. Where the runs come from is another matter
(`Line.divide`); the operations here are for any list of runs.
-/

/-- A text and runs over its code units. -/
structure Line where
  text : Text
  runs : List Run
  deriving DecidableEq, Repr

namespace Line

/-- A text without runs yet. -/
def ofText (t : Text) : Line :=
  ⟨t, []⟩

/-- The code units that the runs span. -/
def units (line : Line) : Array CodeUnit :=
  line.text.units

/-- The number of code units. -/
def length (line : Line) : Nat :=
  line.units.size

/-- A line is degraded if some run has no direction: it could not be analysed. -/
def isDegraded (line : Line) : Bool :=
  line.runs.any fun run => run.direction == .invalid

/-- The text of a run: the units of its span, read as a text of their own. -/
def runText (line : Line) (run : Run) : Text :=
  Text.ofUnits line.units run.start (some run.stop)

/-- The offset and the length of a run in code points. -/
def codePointRange (line : Line) (run : Run) : Except Cursor.OutOfRange (Nat × Nat) := do
  let units := line.units
  let before ← Cursor.count units 0 run.start
  let inside ← Cursor.count units run.start run.stop
  return (before, inside)

/-- Whether the runs tile the line. -/
def checkTiling (line : Line) : Except Run.TilingError Unit :=
  Run.checkTiling line.length line.runs

/-- The runs in visual order. -/
def visualRuns (line : Line) : List Run :=
  (Run.visual.run line.runs).1

/-- The line with its runs put into visual order. -/
def reordered (line : Line) : Line :=
  { line with runs := (Run.reorder.run line.runs).2 }

/-- The line with a run after all others. -/
def push (line : Line) (run : Run) : Line :=
  { line with runs := line.runs ++ [run] }

/-- Why no run can be taken out: the position is no word, or there is no run, or none at the
position. -/
inductive PopError
  | notWord
  | empty
  | outOfRange
  deriving DecidableEq, Repr

/-- The wording of a pop error. -/
def PopError.message : PopError → Text
  | .notWord => "position too large"
  | .empty => "pop from empty list"
  | .outOfRange => "pop index out of range"

/-- Takes out the run at a position counted from either end. -/
def pop (line : Line) (position : Int) : Except PopError (Run × Line) :=
  if !Position.isWord position then .error .notWord
  else
    match Position.index? line.runs.length position with
    | none => .error (if line.runs.isEmpty then .empty else .outOfRange)
    | some i =>
      match line.runs[i]? with
      | none => .error .outOfRange
      | some run => .ok (run, { line with runs := line.runs.eraseIdx i })

end Line

/-! ## Dividing a line into runs

A line is analysed for its logical runs, and each of these is divided further into stretches
that share a script. The runs come in logical order and tile the line; this is checked at the
end, together with what the parts promise, so a division either gives such runs or says which
promise was broken. A line whose levels cannot be resolved is not an error: it is one run
without a script and a direction.
-/

/-! ### Texts that can be divided -/

/-- A line to divide, as a text or as octets in UTF-8. -/
inductive Source
  | text (t : Text)
  | octets (given : List UInt8)
  deriving DecidableEq, Repr

/-- Why a source is no line: it is not UTF-8, it is empty, or it is more than one line. -/
inductive TextError
  | notDecoded (e : Text.OctetError)
  | empty
  | lineBreak (t : Text)
  deriving DecidableEq, Repr

/-- The wording of a text error. -/
def TextError.message : TextError → Text
  | .notDecoded e => "Text is not valid UTF-8: " ++ e.message
  | .empty => "Shaping of empty strings is not supported"
  | .lineBreak t => "Shaping with line breaks is not supported: " ++ Text.quoted t

/-- Carriage returns and line feeds break lines here; other line boundaries do not. -/
def isLineBreak (c : CodePoint) : Bool :=
  c.val = 0x0D || c.val = 0x0A

/-- The text of a source. -/
def Source.decoded : Source → Except TextError Text
  | .text t => .ok t
  | .octets given => (Text.ofOctets given).mapError .notDecoded

/-- The text of a source, if it is not empty and has no line break. -/
def Source.checked (source : Source) : Except TextError Text := do
  let t ← source.decoded
  if t.isEmpty then .error .empty
  else if t.any isLineBreak then .error (.lineBreak t)
  else .ok t

/-! ### Division -/

/-- Why a source is not divided: it is no line, or a promise was broken on the way. -/
inductive DivisionError
  | text (e : TextError)
  | emptyLogicalRun (run : Bidi.LogicalRun)
  | interval (e : Script.IntervalError)
  | emptyRun (offset : Nat)
  | tiling (e : Run.TilingError)
  deriving DecidableEq, Repr

/-- The wording of a division error. -/
def DivisionError.message : DivisionError → Text
  | .text e => e.message
  | .emptyLogicalRun run => (Bidi.AnalysisError.emptyRun run).message
  | .interval e => e.message
  | .emptyRun offset => "Empty script run at offset " ++ Text.ofNat offset
  | .tiling e => e.message

/-- The runs of one direction that divide the units from `start` up to `stop` by script. -/
def runsBetween (lookup : Script.Lookup) (units : Array CodeUnit) (direction : Direction)
    (start stop : Nat) : Except DivisionError (List Run) :=
  if start < stop then
    match Script.interval lookup units start (stop - start) with
    | .error e => .error (.interval e)
    | .ok found =>
      -- the division would not go on from here
      if found.length = 0 then .error (.emptyRun start)
      else
        (runsBetween lookup units direction (start + found.length) stop).map
          (⟨start, found.length, Script.tag found.script, direction⟩ :: ·)
  else .ok []
termination_by stop - start

/-- The runs of logical runs, in order. -/
def runsOfLogical (lookup : Script.Lookup) (units : Array CodeUnit) :
    List Bidi.LogicalRun → Except DivisionError (List Run)
  | [] => .ok []
  | run :: rest => do
    let first ← runsBetween lookup units (Direction.ofLevel run.level) run.start run.stop
    let others ← runsOfLogical lookup units rest
    return first ++ others

namespace Line

/-- The one run of a line that could not be analysed. -/
def degraded (t : Text) : Line :=
  let line := ofText t
  line.push ⟨0, line.length, Script.unknown, .invalid⟩

/-- The line of a text with given logical runs, checked. -/
def ofLogicalRuns (lookup : Script.Lookup) (t : Text) (logical : List Bidi.LogicalRun) :
    Except DivisionError Line := do
  let runs ← runsOfLogical lookup t.units logical
  let line : Line := ⟨t, runs⟩
  line.checkTiling.mapError .tiling
  return line

/-- Divides a source: the context afterwards, and the line with its runs in logical order. A
source that is no line does not reach the context. -/
def divide (lookup : Script.Lookup) (ctx : Bidi.Context) (source : Source)
    (fault : Option Text) : Bidi.Context × Except DivisionError Line :=
  match source.checked with
  | .error e => (ctx, .error (.text e))
  | .ok t =>
    let (ctx', logical) := ctx.analyse t fault
    (ctx', match logical with
      -- an analysis that failed is no error here, a broken promise is
      | .error (.failed _) => .ok (degraded t)
      | .error (.emptyRun run) => .error (.emptyLogicalRun run)
      | .ok logical => ofLogicalRuns lookup t logical)

end Line

end LineRuns
