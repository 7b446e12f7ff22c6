import LineRuns.Text.Basic

/-!
# Texts as sixteen-bit code units

A text is written as units and read back from them, as a whole, as a slice between two positions, or
code point by code point with a cursor.
-/

/-! ## Positions counted from either end

A position in a sequence of `size` entries is an integer. From zero on it counts from the
front; a negative one counts back from the end. There are two readings: a single entry is
looked up at a position that exists (`index?`), a slice moves its ends into the sequence
(`clamp`).
-/

namespace LineRuns.Position

/-- The front-based index of the entry at a position, if there is one. -/
def index? (size : Nat) (position : Int) : Option Nat :=
  let counted := if position < 0 then position + size else position
  if 0 ≤ counted ∧ counted < size then some counted.toNat else none

/-- Whether a position is a signed word of 64 bits. Others are told apart where they are refused;
no sequence has them. -/
def isWord (position : Int) : Bool :=
  -0x8000000000000000 ≤ position && position < 0x8000000000000000

/-- The front-based end of a slice: positions outside the sequence move to its nearer end. -/
def clamp (size : Nat) (position : Int) : Nat :=
  min size (if position < 0 then position + size else position).toNat

theorem index?_ofNat (size n : Nat) :
    index? size n = if n < size then some n else none := by
  simp only [index?]
  split <;> split <;> split <;> simp_all <;> omega

theorem clamp_ofNat (size n : Nat) : clamp size n = min size n := by
  simp only [clamp]
  split <;> omega

theorem clamp_le (size : Nat) (position : Int) : clamp size position ≤ size :=
  Nat.min_le_left _ _

/-- The entries between two positions; an absent end stands for the end of the sequence. -/
def slice {α : Type} (entries : Array α) (start : Int) (stop : Option Int) : Array α :=
  entries.extract (clamp entries.size start)
    ((stop.map (clamp entries.size)).getD entries.size)

end LineRuns.Position

/-! ## Units

A code point up to U+FFFF is one unit, an astral one a lead and a trail surrogate. Every text
has units and every sequence of units is read as a text: a lead unit and a trail unit right
after it are one astral character, every other unit stands for itself. So reading gives back
the units that were written (`units` after `decode`), while writing keeps a text apart from
others only as far as its surrogates do not stand in pairs.
-/

namespace LineRuns

/-- A code unit is a word of sixteen bits. -/
abbrev CodeUnit := UInt16

namespace CodeUnit

/-- Lead units are those from D800 to DBFF. -/
def isLead (u : CodeUnit) : Bool :=
  0xD800 ≤ u.toNat && u.toNat ≤ 0xDBFF

/-- Trail units are those from DC00 to DFFF. -/
def isTrail (u : CodeUnit) : Bool :=
  0xDC00 ≤ u.toNat && u.toNat ≤ 0xDFFF

/-- The code point of a unit that stands alone. -/
def single (u : CodeUnit) : CodePoint :=
  ⟨u.toNat, by have := u.toNat_lt; omega⟩

/-- The astral code point of a lead and a trail unit, each giving ten bits. -/
def pair (lead trail : CodeUnit) : CodePoint :=
  ⟨0x10000 + lead.toNat % 0x400 * 0x400 + trail.toNat % 0x400, by omega⟩

end CodeUnit

namespace CodePoint

/-- The lead unit of an astral code point carries the upper ten bits of its offset. -/
def lead (c : CodePoint) : CodeUnit :=
  UInt16.ofNat (0xD800 + (c.val - 0x10000) / 0x400)

/-- The trail unit of an astral code point carries the lower ten bits of its offset. -/
def trail (c : CodePoint) : CodeUnit :=
  UInt16.ofNat (0xDC00 + (c.val - 0x10000) % 0x400)

/-- The one or two units of a code point. -/
def units (c : CodePoint) : List CodeUnit :=
  if c.val > 0xFFFF then [c.lead, c.trail] else [UInt16.ofNat c.val]

theorem length_units (c : CodePoint) : c.units.length = c.width := by
  unfold units width; split <;> rfl

end CodePoint

namespace Text

/-- The units of a text are those of its code points, in order. -/
def units (t : Text) : Array CodeUnit :=
  (t.flatMap CodePoint.units).toArray

theorem size_units (t : Text) : (units t).size = width t := by
  simp only [units, List.size_toArray]
  induction t with
  | nil => rfl
  | cons c t ih => simp [CodePoint.length_units, ih]

/-- Reads units as a text: pairs combine, every other unit is a code point by itself. -/
def decode : List CodeUnit → Text
  | [] => []
  | [u] => [u.single]
  | u :: v :: rest =>
    if u.isLead && v.isTrail then u.pair v :: decode rest
    else u.single :: decode (v :: rest)

/-- The text of the units between two positions; an absent end stands for the end. -/
def ofUnits (units : Array CodeUnit) (start : Int) (stop : Option Int) : Text :=
  decode (Position.slice units start stop).toList

end Text

end LineRuns

/-! ## Walking over code units

A cursor walks over the units from one position to another and meets one code point at each
stop. It looks at the unit after a lead unit only below its end, so a pair that the end cuts
counts as the bare lead. Positions may be negative (`Position.index?`) and are reported as
they are; a position that does not exist ends the walk with an error.
-/

namespace LineRuns.Cursor

/-- A walk fails at a position where there is no unit. -/
structure OutOfRange where
  position : Int
  deriving DecidableEq, Repr

/-- The wording of a failed walk. -/
def OutOfRange.message (e : OutOfRange) : Text :=
  if Position.isWord e.position then "array index out of range"
  else "cannot fit 'int' into an index-sized integer"

/-- The unit at a position. -/
def unitAt (units : Array CodeUnit) (position : Int) : Except OutOfRange CodeUnit :=
  match (Position.index? units.size position).bind (units[·]?) with
  | some u => .ok u
  | none => .error ⟨position⟩

/-- The code point met at a position, walking towards `stop`, and the units it takes. -/
def step (units : Array CodeUnit) (position stop : Int) :
    Except OutOfRange (CodePoint × Nat) := do
  let u ← unitAt units position
  if u.isLead && position + 1 < stop then
    let v ← unitAt units (position + 1)
    if v.isTrail then return (u.pair v, 2)
  return (u.single, 1)

theorem step_pos {units : Array CodeUnit} {position stop : Int} {c : CodePoint} {n : Nat}
    (h : step units position stop = .ok (c, n)) : 0 < n := by
  simp only [step, bind, Except.bind, pure, Except.pure] at h
  split at h
  · contradiction
  · split at h
    · split at h
      · contradiction
      · split at h <;> (simp at h; omega)
    · simp at h; omega

/-- The code points met from `position` to `stop`, each with the position it starts at. -/
def walk (units : Array CodeUnit) (position stop : Int) :
    Except OutOfRange (List (Int × CodePoint)) :=
  if position < stop then
    match h : step units position stop with
    | .error e => .error e
    | .ok (c, n) =>
      have := step_pos h
      (walk units (position + n) stop).map ((position, c) :: ·)
  else .ok []
termination_by (stop - position).toNat

/-- The number of code points met from `position` to `stop`. -/
def count (units : Array CodeUnit) (position stop : Int) : Except OutOfRange Nat :=
  (walk units position stop).map List.length

end LineRuns.Cursor
