import LineRuns.Unicode.BidiClassRows

/-!
# Levels and embeddings

Levels with their sides, and how embedding and override controls set the level of each character.
-/

namespace LineRuns.Bidi

/-! ## Levels and sides

An embedding level is a number; even levels run to the right from the left side, odd levels the
other way. Where two levels meet, the higher one decides the side.
-/

open Unicode (BidiClass)

/-- The side that text starts from: left for even levels, right for odd ones. -/
inductive Side
  | L | R
  deriving DecidableEq, Repr

namespace Side

/-- The side of a level is its parity. -/
def ofLevel (level : Nat) : Side :=
  if level % 2 = 0 then L else R

/-- The side of the boundary between two levels is that of the higher one. -/
def between (a b : Nat) : Side :=
  ofLevel (max a b)

/-- A side as the class of a strong character. -/
def toClass : Side → BidiClass
  | L => .L
  | R => .R

/-- The letter of a side. -/
def name : Side → String
  | L => "L"
  | R => "R"

end Side

/-- The least odd level above a level. -/
def nextOdd (level : Nat) : Nat :=
  level + 1 + level % 2

/-- The least even level above a level. -/
def nextEven (level : Nat) : Nat :=
  level + 2 - level % 2

theorem nextOdd_odd (level : Nat) : nextOdd level % 2 = 1 := by
  unfold nextOdd; omega

theorem nextEven_even (level : Nat) : nextEven level % 2 = 0 := by
  unfold nextEven; omega

/-! ## Explicit levels

Embedding and override controls nest. The state that they leave for the next character is an
`Embedding`: the level and override in effect, the ones to come back to, and two counters of
initiators that found no room. Levels stay below `limit`: an initiator that would reach it is
counted, in `skipped` at level 60, where the other parity still had room, and in `overflow`
otherwise; while `overflow` counts, every initiator is counted with it. The end of an embedding
undoes the latest of what its initiators did.

Controls and boundary neutrals take no part in the later steps. Every other character keeps its
place with a class, which an override makes strong, and a level (`place`).
-/

open Unicode (BidiClass)

/-- Explicit levels lie below this limit. -/
def limit : Nat := 62

/-- The class for the paragraph level: the first strong character decides, right only if it is
of class R or AL. -/
def baseLevel (classes : List BidiClass) : Nat :=
  match classes.find? fun cls => cls == .L || cls == .R || cls == .AL with
  | some .R | some .AL => 1
  | _ => 0

/-- Isolate controls are ordinary neutrals here; all other classes stand for themselves. -/
def withoutIsolates : BidiClass → BidiClass
  | .LRI | .RLI | .FSI | .PDI => .ON
  | cls => cls

/-- A character that keeps its place: its class now and its level now. -/
structure Cell where
  cls : BidiClass
  level : Nat
  deriving DecidableEq, Repr

/-! ### The state between characters -/

/-- What the controls so far leave in effect. -/
structure Embedding where
  level : Nat
  override : Option Side
  outer : List (Nat × Option Side)
  overflow : Nat
  skipped : Nat
  deriving DecidableEq, Repr

namespace Embedding

/-- At the start of a paragraph the base level is in effect and nothing is open. -/
def start (base : Nat) : Embedding :=
  ⟨base, none, [], 0, 0⟩

/-- An initiator opens `level` if there is room, and is counted if not. -/
def initiate (e : Embedding) (level : Nat) (override : Option Side) : Embedding :=
  -- behind an initiator without room none has room, whatever its parity
  if e.overflow ≠ 0 then { e with overflow := e.overflow + 1 }
  else if level < limit then
    { e with level, override, outer := (e.level, e.override) :: e.outer }
  else if e.level = 60 then { e with skipped := e.skipped + 1 }
  else { e with overflow := e.overflow + 1 }

/-- The end of an embedding undoes the latest initiator: an overflow, else a skipped one unless
the level is 61, else the innermost open one. An end without an initiator does nothing. -/
def terminate (e : Embedding) : Embedding :=
  if e.overflow ≠ 0 then { e with overflow := e.overflow - 1 }
  -- an embedding opened at level 61 after skipped ones is the latest, so it ends first
  else if e.skipped ≠ 0 ∧ e.level ≠ 61 then { e with skipped := e.skipped - 1 }
  else match e.outer with
    | [] => e
    | (level, override) :: outer => { e with level, override, outer }

/-- The state after a character; a paragraph separator starts afresh. -/
def after (base : Nat) (e : Embedding) : BidiClass → Embedding
  | .RLE => e.initiate (nextOdd e.level) none
  | .RLO => e.initiate (nextOdd e.level) (some .R)
  | .LRE => e.initiate (nextEven e.level) none
  | .LRO => e.initiate (nextEven e.level) (some .L)
  | .PDF => e.terminate
  | .B => start base
  | _ => e

/-- The place that a character keeps, if any: a paragraph separator at the base level, controls
and boundary neutrals none, all others at the level in effect. -/
def place (base : Nat) (e : Embedding) : BidiClass → Option Cell
  | .RLE | .RLO | .LRE | .LRO | .PDF | .BN => none
  | .B => some ⟨.B, base⟩
  | cls => some ⟨(e.override.map Side.toClass).getD cls, e.level⟩

end Embedding

/-- The places of all characters, with `e` in effect before the first. -/
def places (base : Nat) : Embedding → List BidiClass → List (Option Cell)
  | _, [] => []
  | e, cls :: rest => e.place base cls :: places base (e.after base cls) rest

theorem length_places (base : Nat) (e : Embedding) (classes : List BidiClass) :
    (places base e classes).length = classes.length := by
  induction classes generalizing e with
  | nil => rfl
  | cons cls rest ih => simp [places, ih]

end LineRuns.Bidi
