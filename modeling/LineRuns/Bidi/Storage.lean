import LineRuns.Bidi.Resolution
import LineRuns.Unicode.Property

/-!
# Storage

The characters of a line are analysed in place: a storage holds them together with the level
runs among them, and each stage changes what the stage before it left. Loading appends, and no
stage tells old characters from new ones; a stage that fails leaves the storage half changed. So
a storage is cleared before a line is loaded. What comes out then is the resolution of
`LineRuns.Bidi.Resolution`, which works on lists and has no state.
-/

namespace LineRuns.Bidi

open Unicode (BidiClass)

/-- What an analysis works on: the base level with its side, the characters held, what they are
now, and the level runs among them. -/
structure Storage where
  base : Option Nat
  side : Option Side
  chars : Text
  cells : List Cell
  runs : List LevelRun
  deriving DecidableEq, Repr

/-! ## Work on level runs -/

namespace LevelRun

/-- The level runs of cells. -/
def ofCells (base : Nat) (cells : List Cell) : List LevelRun :=
  ofStretches 0 (stretches base cells)

/-- The cells at the place of a level run. -/
def slice (run : LevelRun) (cells : List Cell) : List Cell :=
  (cells.drop run.start).take run.length

/-- Cells with those at the place of a level run replaced. -/
def put (run : LevelRun) (slice cells : List Cell) : List Cell :=
  cells.take run.start ++ slice ++ cells.drop (run.start + run.length)

/-- The cells of a level run with their weak classes resolved. -/
def weak (run : LevelRun) (cells : List Cell) : List Cell :=
  List.zipWith (fun c cls => { c with cls }) cells (resolveWeak run.sor (cells.map Cell.cls))

/-- The cells of a level run with their neutral classes resolved. -/
def neutral (run : LevelRun) (cells : List Cell) : List Cell :=
  resolveNeutral run.sor run.eor cells

/-- Changes the cells of one level run after another. -/
def changeAll (change : LevelRun → List Cell → List Cell) :
    List LevelRun → List Cell → List Cell
  | [], cells => cells
  | run :: rest, cells =>
    changeAll change rest (run.put (change run (run.slice cells)) cells)

/-- Takes the cells of one level run after another to their implied levels, as far as the first
class that has none. -/
def implyAll : List LevelRun → List Cell → List Cell × Option BidiClass
  | [], cells => (cells, none)
  | run :: rest, cells =>
    match imply (run.slice cells) with
    -- what was implied before the class that stops stays in place
    | (done, some cls) => (run.put done cells, some cls)
    | (done, none) => implyAll rest (run.put done cells)

end LevelRun

/-! ## Stages -/

namespace Storage

/-- A storage that nothing was put into. -/
def empty : Storage :=
  ⟨none, none, [], [], []⟩

/-- Takes everything out. -/
def clear (s : Storage) : Storage :=
  { s with base := none, side := none, chars := [], cells := [], runs := [] }

/-- The base level that the stages work with. -/
def baseLevel (s : Storage) : Nat :=
  s.base.getD 0

/-- Sets the base level and its side. -/
def setBase (base : Nat) (s : Storage) : Storage :=
  { s with base := some base, side := some (Side.ofLevel base) }

/-- Appends the characters of a text, all at the base level. -/
def load (t : Text) (s : Storage) : Storage :=
  { s with
    chars := s.chars ++ t
    cells := s.cells ++ t.map fun c => ⟨Unicode.bidiClass c, s.baseLevel⟩ }

/-- Makes isolate controls ordinary neutrals. -/
def hideIsolates (s : Storage) : Storage :=
  { s with cells := s.cells.map fun c => { c with cls := withoutIsolates c.cls } }

/-- The places of all characters held, under the controls among them. -/
def placed (s : Storage) : List (Option Cell) :=
  places s.baseLevel (Embedding.start s.baseLevel) (s.cells.map Cell.cls)

/-- The characters that keep a place. -/
def keep (chars : Text) (placed : List (Option Cell)) : Text :=
  ((chars.zip placed).filter fun p => p.2.isSome).map Prod.fst

/-- Gives the characters their explicit levels, takes out those that keep no place, and finds the
level runs. -/
def embed (s : Storage) : Storage :=
  let cells := s.placed.filterMap id
  { s with chars := keep s.chars s.placed, cells, runs := LevelRun.ofCells s.baseLevel cells }

/-- Resolves the weak classes of all level runs. -/
def weak (s : Storage) : Storage :=
  { s with cells := LevelRun.changeAll LevelRun.weak s.runs s.cells }

/-- Resolves the neutral classes of all level runs. -/
def neutral (s : Storage) : Storage :=
  { s with cells := LevelRun.changeAll LevelRun.neutral s.runs s.cells }

/-- Takes the characters to their implied levels, and gives the class that this stopped at. -/
def imply (s : Storage) : Storage × Option BidiClass :=
  let (cells, stopped) := LevelRun.implyAll s.runs s.cells
  ({ s with cells }, stopped)

/-- Sets the base level of a text and appends its characters. -/
def prepare (t : Text) (s : Storage) : Storage :=
  ((s.setBase (Bidi.baseLevel (t.map Unicode.bidiClass))).load t).hideIsolates

/-- Resolves a text: the storage afterwards, and the levels of all characters that were held once
the text was loaded. A fault ends the stages before the weak classes. -/
def resolve (t : Text) (fault : Option Text) (s : Storage) :
    Storage × Except LevelFailure (List (CodePoint × Nat)) :=
  -- the characters as loaded are kept aside: their levels are asked for at the end
  let loaded := s.prepare t
  let embedded := loaded.embed
  match fault with
  | some cause => (embedded, .error (.fault cause))
  | none =>
    match embedded.weak.neutral.imply with
    | (done, some cls) => (done, .error (.notAllowed cls))
    | (done, none) =>
      (done, .ok (loaded.chars.zip
        (inherit loaded.baseLevel loaded.placed (done.cells.map Cell.level))))

end Storage

end LineRuns.Bidi
