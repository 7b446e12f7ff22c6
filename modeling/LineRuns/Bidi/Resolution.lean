import LineRuns.Bidi.Stretch
import LineRuns.Text.Basic

/-!
# Resolved levels

The whole way from the classes of a line to a level for each of its characters: base level,
explicit levels, stretches, weak and neutral classes, and last the step above the explicit level
that a class asks for. A class that asks for none makes the resolution fail; only characters
without a class come that far. Characters that kept no place take the level of the place before
them. A resolution also records what it worked on, as far as it came.
-/

namespace LineRuns.Bidi

open Unicode (BidiClass)

/-- Why levels could not be resolved: a class that has no rule, or a fault met before the weak
classes, with its own wording. -/
inductive LevelFailure
  | notAllowed (cls : BidiClass)
  | fault (cause : Text)
  deriving DecidableEq, Repr

/-- The wording of a failure. -/
def LevelFailure.message : LevelFailure → Text
  | .notAllowed cls => Text.ofString cls.name ++ " not allowed here"
  | .fault cause => cause

/-! ## Implicit levels -/

/-- The level of a resolved class: strong classes go to their side and numbers to an even level
above a right-to-left one. -/
def impliedLevel (cls : BidiClass) (level : Nat) : Option Nat :=
  match cls with
  | .L => some (if level % 2 = 0 then level else level + 1)
  | .R => some (if level % 2 = 0 then level + 1 else level)
  | .EN | .AN => some (if level % 2 = 0 then level + 2 else level + 1)
  | _ => none

/-- The cells with their implied levels, as far as the first class that has none. -/
def imply : List Cell → List Cell × Option BidiClass
  | [] => ([], none)
  | c :: rest =>
    match impliedLevel c.cls c.level with
    | none => (c :: rest, some c.cls)
    | some level =>
      let (done, stopped) := imply rest
      (⟨c.cls, level⟩ :: done, stopped)

/-- Levels for all characters: a place takes the next of `levels`, and a character without a
place the level before it. -/
def inherit (before : Nat) : List (Option Cell) → List Nat → List Nat
  | [], _ => []
  | none :: rest, levels => before :: inherit before rest levels
  | some _ :: rest, level :: levels => level :: inherit level rest levels
  | some _ :: rest, [] => before :: inherit before rest []

theorem length_inherit (before : Nat) (placed : List (Option Cell)) (levels : List Nat) :
    (inherit before placed levels).length = placed.length := by
  induction placed generalizing before levels with
  | nil => rfl
  | cons p rest ih =>
    cases p <;> cases levels <;> simp [inherit, ih]

/-! ## The whole resolution -/

/-- What a resolution found: the base level, the retained characters as they were last, the
level runs, and the levels of all characters unless it failed. -/
structure Resolution where
  base : Nat
  cells : List Cell
  runs : List LevelRun
  levels : Except LevelFailure (List Nat)

/-- The places of a line's characters, given by their classes. -/
def placesOf (raw : List BidiClass) : List (Option Cell) :=
  places (baseLevel raw) (Embedding.start (baseLevel raw)) (raw.map withoutIsolates)

/-- The stretches of a line. -/
def stretchesOf (raw : List BidiClass) : List Stretch :=
  stretches (baseLevel raw) ((placesOf raw).filterMap id)

/-- The retained characters of a line with weak and neutral classes resolved. -/
def settled (raw : List BidiClass) : List Cell :=
  (stretchesOf raw).flatMap fun s => s.weak.neutral.cells

/-- The resolution of a line given by its classes. A fault takes the place of the weak classes
and of all that comes after them. -/
def resolve (raw : List BidiClass) (fault : Option Text) : Resolution :=
  let base := baseLevel raw
  let placed := placesOf raw
  let runs := LevelRun.ofStretches 0 (stretchesOf raw)
  match fault with
  | some cause => ⟨base, placed.filterMap id, runs, .error (.fault cause)⟩
  | none =>
    match imply (settled raw) with
    | (done, some cls) => ⟨base, done, runs, .error (.notAllowed cls)⟩
    | (done, none) => ⟨base, done, runs, .ok (inherit base placed (done.map Cell.level))⟩

theorem base_resolve (raw : List BidiClass) (fault : Option Text) :
    (resolve raw fault).base = baseLevel raw := by
  cases fault with
  | some cause => rfl
  | none =>
    simp only [resolve]
    split <;> rfl

/-- The levels of a line without a fault, by the class that the implied levels stopped at. -/
theorem levels_resolve (raw : List BidiClass) :
    (resolve raw none).levels = match (imply (settled raw)).2 with
      | some cls => .error (.notAllowed cls)
      | none => .ok (inherit (baseLevel raw) (placesOf raw)
          ((imply (settled raw)).1.map Cell.level)) := by
  simp only [resolve]
  rcases imply (settled raw) with ⟨done, stopped⟩
  cases stopped <;> rfl

/-- A line has levels if there is no fault and no class stops the implied levels. -/
theorem levels_resolve_eq_ok_iff {raw : List BidiClass} {fault : Option Text} {levels : List Nat} :
    (resolve raw fault).levels = .ok levels ↔
      fault = none ∧ (imply (settled raw)).2 = none ∧
        levels = inherit (baseLevel raw) (placesOf raw)
          ((imply (settled raw)).1.map Cell.level) := by
  cases fault with
  | some cause => simp [resolve]
  | none =>
    rw [levels_resolve]
    cases (imply (settled raw)).2 with
    | some cls => simp
    | none => simp [eq_comm]

end LineRuns.Bidi
