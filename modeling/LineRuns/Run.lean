import LineRuns.Script
import LineRuns.Text.Octets

/-!
# Runs

What a run is, when runs tile a line, and the visual order of runs.
-/

namespace LineRuns

/-! ## Runs and directions

A run is a span of a line's code units with one script and one direction. Nothing in the type
ties a run to a line: start and length are integers, and a list of runs may leave gaps or
overlap (`Run.checkTiling`).
-/

/-- The direction of a run; a run of a line that could not be analysed has none. -/
inductive Direction
  | leftToRight
  | rightToLeft
  | invalid
  deriving DecidableEq, Repr

namespace Direction

/-- Odd levels run from right to left. -/
def ofLevel (level : Nat) : Direction :=
  if level % 2 = 1 then rightToLeft else leftToRight

/-- The short name of a direction, as shaping engines know it. -/
def tag : Direction → String
  | leftToRight => "ltr"
  | rightToLeft => "rtl"
  | invalid => "invalid"

/-- A direction in words, with its tag. -/
def description (d : Direction) : Text :=
  let name := match d with
    | leftToRight => "LTR"
    | rightToLeft => "RTL"
    | invalid => "INVALID"
  "<Direction." ++ Text.ofString name ++ ": " ++ Text.quoted (d.tag : Text) ++ ">"

end Direction

/-- A span of code units with one script and one direction. -/
structure Run where
  start : Int
  length : Int
  script : Script.Code
  direction : Direction
  deriving DecidableEq, Repr

namespace Run

/-- The position after a run. -/
def stop (run : Run) : Int :=
  run.start + run.length

/-- A run in words. -/
def description (run : Run) : Text :=
  "TextRun(start=" ++ Text.ofInt run.start ++ ", length=" ++ Text.ofInt run.length ++
    ", script=" ++ Text.quoted (run.script : Text) ++
    ", direction=" ++ run.direction.description ++ ")"

/-! ## Runs that tile a line

Runs tile `size` code units if each is not empty, the first starts at zero, every other where
the one before it stops, and the last stops at `size`. The check walks over the runs with a
cursor and names the first run that does not continue there.
-/

/-- Why runs do not tile: a run that does not go on from the cursor, or a wrong end. -/
inductive TilingError
  | notContinued (run : Run) (cursor : Int)
  | coverage (covered : Int) (size : Nat)
  deriving DecidableEq, Repr

/-- The wording of a tiling error. -/
def TilingError.message : TilingError → Text
  | .notContinued run cursor =>
    "Run " ++ run.description ++ " does not continue at offset " ++ Text.ofInt cursor
  | .coverage covered size =>
    "Runs cover " ++ Text.ofInt covered ++ " of " ++ Text.ofNat size ++ " code units"

/-- Checks that runs tile the units from the cursor up to `size`. -/
def checkFrom (size : Nat) (cursor : Int) : List Run → Except TilingError Unit
  | [] => if cursor = size then .ok () else .error (.coverage cursor size)
  | run :: rest =>
    if run.start = cursor ∧ 0 < run.length then checkFrom size run.stop rest
    else .error (.notContinued run cursor)

/-- Checks that runs tile `size` units. -/
def checkTiling (size : Nat) (runs : List Run) : Except TilingError Unit :=
  checkFrom size 0 runs

/-! ## Visual order

The first run gives the direction of the line. Every maximal stretch of runs that do not have
it is turned around, and a line that is not left-to-right is then turned around as a whole. The
runs themselves stay as they are. This is the visual order of lines with one embedding; runs
of deeper levels are not told apart.

Runs are put into order where they stand, by a pass over positions that reads what it has changed
so far. `visual` makes the pass over a copy.
-/

/-- The position where the stretch from `i` on of runs whose direction is not `line` stops. -/
def stretchStop (line : Direction) (items : List Run) (i : Nat) : Nat :=
  if h : i < items.length then
    if items[i].direction = line then i else stretchStop line items (i + 1)
  else i
termination_by items.length - i

/-- Turns around the runs from `start` up to `stop`, where they stand. -/
def turnSlice (items : List Run) (start stop : Nat) : List Run :=
  items.take start ++ (items.extract start stop).reverse ++ items.drop stop

theorem le_stretchStop (line : Direction) (items : List Run) (i : Nat) :
    i ≤ stretchStop line items i := by
  fun_induction stretchStop line items i with
  | case1 => exact Nat.le_refl _
  | case2 i h hother ih => omega
  | case3 => exact Nat.le_refl _

theorem lt_stretchStop {line : Direction} {items : List Run} {i : Nat} (h : i < items.length)
    (hother : items[i].direction ≠ line) : i < stretchStop line items i := by
  rw [stretchStop, dif_pos h, if_neg hother]
  exact le_stretchStop line items (i + 1)

theorem length_turnSlice {items : List Run} {start stop : Nat} (h : start ≤ stop) :
    (turnSlice items start stop).length = items.length := by
  simp only [turnSlice, List.extract_eq_take_drop, List.length_append, List.length_reverse,
    List.length_take, List.length_drop]
  omega

/-- Turns around each stretch from position `i` on. -/
def turnFrom (line : Direction) (items : List Run) (i : Nat) : List Run :=
  if h : i < items.length then
    if hline : items[i].direction = line then turnFrom line items (i + 1)
    else
      let stop := stretchStop line items i
      turnFrom line (turnSlice items i stop) stop
  else items
termination_by items.length - i
decreasing_by
  · omega
  · have hlt := lt_stretchStop h hline
    rw [length_turnSlice (Nat.le_of_lt hlt)]
    omega

/-- Puts the runs into the order in which they are seen from left to right. -/
def reorder : StateM (List Run) Unit := do
  match (← get).head? with
  | none => return
  | some first =>
    modify fun items => turnFrom first.direction items 0
    -- stretches first, then the whole line: a stretch in a line that is turned keeps its order
    if first.direction ≠ .leftToRight then modify List.reverse

/-- The runs in this order; the runs themselves stay where they are. -/
def visual : StateM (List Run) (List Run) := do
  let copy ← get
  let ((), ordered) := reorder.run copy
  return ordered

end Run

end LineRuns
