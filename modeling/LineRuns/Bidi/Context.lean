import LineRuns.Bidi.Storage
import LineRuns.Text.Basic

/-!
# Logical runs and contexts

What an analysis of a line gives, and the context that makes one analysis after another.
-/

namespace LineRuns.Bidi

/-! ## Logical runs

Neighbouring characters of one level form a logical run, addressed by code units. A run starts
where the one before it stops; the widths of the characters say how far it goes.
-/

/-- The units from `start` up to `stop`, all at one level. -/
structure LogicalRun where
  start : Nat
  stop : Nat
  level : Nat
  deriving DecidableEq, Repr

namespace LogicalRun

/-- Runs at odd levels go from right to left. -/
def isRightToLeft (run : LogicalRun) : Bool :=
  run.level % 2 == 1

/-- A run in words. -/
def description (run : LogicalRun) : Text :=
  "LogicalRun(start=" ++ Text.ofNat run.start ++ ", end=" ++ Text.ofNat run.stop ++
    ", level=" ++ Text.ofNat run.level ++ ")"

/-- The maximal runs of characters given by width and level, the first at `start`. -/
def ofLevels (start : Nat) : List (Nat × Nat) → List LogicalRun
  | [] => []
  | (width, level) :: rest =>
    match ofLevels (start + width) rest with
    | [] => [⟨start, start + width, level⟩]
    | run :: more =>
      -- a run of the same level grows in front
      if run.level = level then ⟨start, run.stop, level⟩ :: more
      else ⟨start, start + width, level⟩ :: run :: more

end LogicalRun

/-! ## Analysis of lines

A context analyses one line after another, all in the same storage. It counts its analyses and
keeps what the last one found: the base level, the retained characters as they were last, and
the level runs. A failed analysis leaves what it had come to; the next one clears it first.
-/

/-- Why an analysis gives no logical runs: levels could not be resolved, or a run that it came
to would be empty. -/
inductive AnalysisError
  | failed (cause : LevelFailure)
  | emptyRun (run : LogicalRun)
  deriving DecidableEq, Repr

/-- The wording of an analysis error. -/
def AnalysisError.message : AnalysisError → Text
  | .failed cause => "BiDi analysis failed: " ++ cause.message
  | .emptyRun run => "Empty logical run " ++ run.description

/-- The number of analyses begun, the base level of the last one, and the storage of all. -/
structure Context where
  analyses : Nat
  base : Option Nat
  storage : Storage
  deriving DecidableEq, Repr

namespace Context

/-- A context that has analysed nothing. -/
def fresh : Context :=
  ⟨0, none, Storage.empty⟩

/-- Forgets all findings; the count goes on. -/
def reset (ctx : Context) : Context :=
  { ctx with base := none, storage := ctx.storage.clear }

/-- The side of the base level. -/
def baseSide (ctx : Context) : Option Side :=
  ctx.storage.side

/-- The characters held. -/
def cells (ctx : Context) : List Cell :=
  ctx.storage.cells

/-- The level runs among the characters held. -/
def runs (ctx : Context) : List LevelRun :=
  ctx.storage.runs

end Context

/-- The levels of a text's characters, with all that led to them. -/
def resolveText (t : Text) (fault : Option Text) : Resolution :=
  resolve (t.map Unicode.bidiClass) fault

/-- The logical runs of characters at these levels, each checked to be not empty. -/
def runsOfLevels (levels : List (CodePoint × Nat)) : Except AnalysisError (List LogicalRun) :=
  let runs := LogicalRun.ofLevels 0 (levels.map fun p => (p.1.width, p.2))
  match runs.find? fun run => run.stop ≤ run.start with
  | some run => .error (.emptyRun run)
  | none => .ok runs

/-- Analyses a text: the context afterwards, and the logical runs. -/
def Context.analyse (ctx : Context) (t : Text) (fault : Option Text) :
    Context × Except AnalysisError (List LogicalRun) :=
  let cleared := ctx.reset
  let (storage, levels) := cleared.storage.resolve t fault
  (⟨cleared.analyses + 1, storage.base, storage⟩,
    match levels with
    | .error cause => .error (.failed cause)
    | .ok levels => runsOfLevels levels)

end LineRuns.Bidi
