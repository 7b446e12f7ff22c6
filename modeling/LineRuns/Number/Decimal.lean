import LineRuns.Number.Binary64
import LineRuns.Text.Basic
import LineRuns.Unicode.Property

/-!
# Numbers in decimal digits

How a double is written, and how numbers are read that a person writes.
-/

namespace LineRuns.Number

/-! ## Short decimals

Every double has decimals that are nearer to it than to any other double. `shortest` finds one
with the fewest digits, and of these the nearest; `Binary64.shown` lays it out. The reals that
round to a double reach halfway to its neighbours, and halfway itself belongs to them if the
significand is even.
-/

/-- The reals that round to `significand * 2 ^ exponent`, over a common denominator: between
`low / den` and `high / den`, with the ends or without, around `value / den`. -/
structure Interval where
  low : Nat
  value : Nat
  high : Nat
  den : Nat
  closed : Bool

/-- The interval of a positive double. Just above a power of two the doubles below it lie twice
as close. -/
def Interval.ofParts (significand : Nat) (exponent : Int) : Interval :=
  let below := if significand = Nat.pow 2 52 ∧ -1074 < exponent then 1 else 2
  let up := Nat.pow 2 exponent.toNat
  ⟨(4 * significand - below) * up, 4 * significand * up, (4 * significand + 2) * up,
    4 * Nat.pow 2 (-exponent).toNat, significand % 2 == 0⟩

/-- Whether `digits * 10 ^ scale` lies in the interval. -/
def Interval.contains (i : Interval) (digits : Nat) (scale : Int) : Bool :=
  let point := digits * Nat.pow 10 scale.toNat * i.den
  let unit := Nat.pow 10 (-scale).toNat
  if i.closed then i.low * unit ≤ point && point ≤ i.high * unit
  else i.low * unit < point && point < i.high * unit

/-- The decimal on the grid of `10 ^ scale` that lies in the interval, the nearer one of two and
the even one of equally near ones. -/
def Interval.onGrid? (i : Interval) (scale : Int) : Option Nat :=
  let num := i.value * Nat.pow 10 (-scale).toNat
  let den := i.den * Nat.pow 10 scale.toNat
  let nearest := roundDiv num den
  let other := if nearest * den ≤ num then nearest + 1 else nearest - 1
  if i.contains nearest scale then some nearest
  else if i.contains other scale then some other
  else none

/-- The first grid from `scale` downwards that has a decimal in the interval, within `steps`
further grids. -/
def Interval.search (i : Interval) (scale : Int) : Nat → Nat × Int
  | 0 => (i.value * Nat.pow 10 (-scale).toNat / (i.den * Nat.pow 10 scale.toNat), scale)
  | steps + 1 =>
    match i.onGrid? scale with
    | some digits => (digits, scale)
    | none => i.search (scale - 1) steps

/-- The digits and the power of ten of the shortest decimal of a positive double. -/
def shortest (significand : Nat) (exponent : Int) : Nat × Int :=
  let i := Interval.ofParts significand exponent
  let top := (Binary64.floorLog i.value i.den * 30103) / 100000 + 2
  i.search top 22

/-- Digits without zeros at their end, which go into the power of ten. -/
def withoutZeros (digits : Nat) (scale : Int) : Nat → Nat × Int
  | 0 => (digits, scale)
  | steps + 1 =>
    if digits % 10 = 0 ∧ digits ≠ 0 then withoutZeros (digits / 10) (scale + 1) steps
    else (digits, scale)

/-- How decimals are laid out: from `10 ^ lowest` to below `10 ^ highest` with a point and at
least one place, otherwise with an exponent of at least two digits and a sign. -/
structure Layout where
  lowest : Int
  highest : Int

/-- The layout of numbers in messages. -/
def messageLayout : Layout :=
  ⟨-4, 16⟩

/-- So many digits zero. -/
def zeros (count : Int) : Text :=
  List.replicate count.toNat 0x30

/-- A positive decimal in a layout. -/
def Layout.write (layout : Layout) (digits : Nat) (scale : Int) : Text :=
  let (digits, scale) := withoutZeros digits scale 400
  let figures := Text.ofNat digits
  let count : Int := figures.length
  let point := count + scale
  if layout.lowest < point ∧ point ≤ layout.highest then
    if point ≤ 0 then ("0." : Text) ++ zeros (-point) ++ figures
    else if count ≤ point then figures ++ zeros (point - count) ++ ".0"
    else figures.take point.toNat ++ ("." : Text) ++ figures.drop point.toNat
  else
    let places := Text.ofNat (point - 1).natAbs
    let further : Text := if 1 < count then "." ++ (figures.drop 1 : Text) else []
    let sign : Text := if point - 1 < 0 then "e-" else "e+"
    figures.take 1 ++ further ++ sign ++ zeros (2 - places.length) ++ places

/-- A double in words. -/
def Binary64.shown (x : Binary64) : Text :=
  match x.parts with
  | .nan => "nan"
  | .infinite negative => if negative then "-inf" else "inf"
  | .finite negative significand exponent =>
    let sign : Text := if negative then "-" else []
    if significand = 0 then sign ++ "0.0"
    else
      let (digits, scale) := shortest significand exponent
      sign ++ messageLayout.write digits scale

/-! ## Numbers in words

Numbers that a person writes: digits of any script, single underscores between digits, a sign in
front, blanks around. Doubles may have a point, an exponent, or be one of the words for what is
not finite.
-/

/-- Takes the sign off a text. -/
def splitSign : Text → Bool × Text
  | c :: rest => if c.val = 0x2D then (true, rest) else if c.val = 0x2B then (false, rest)
    else (false, c :: rest)
  | [] => (false, [])

/-- The values of digits with single underscores between them; at least one digit. -/
def digitValues? : Text → Option (List Nat)
  | [] => none
  | [c] => (Unicode.decimalDigit? c).map ([·])
  | c :: d :: rest =>
    match Unicode.decimalDigit? c with
    | none => none
    | some value =>
      if d.val = 0x5F then (digitValues? rest).map (value :: ·)
      else (digitValues? (d :: rest)).map (value :: ·)

/-- The number that digits write in a base. -/
def ofDigits (base : Nat) (digits : List Nat) : Nat :=
  digits.foldl (fun n d => n * base + d) 0

/-- The most decimal digits that a whole number may have where it is read or shown. -/
def digitLimit : Nat := 4300

/-- The blanks around numbers are those around lines, but for the upper separators of the
controls. -/
def isPadding (c : CodePoint) : Bool :=
  Text.isBlank c && !(0x1C ≤ c.val && c.val ≤ 0x1F)

/-- A text without the blanks around a number. -/
def unpadded (t : Text) : Text :=
  ((t.dropWhile isPadding).reverse.dropWhile isPadding).reverse

/-- An integer in words. -/
def readInt? (t : Text) : Option Int :=
  let (negative, body) := splitSign (unpadded t)
  ((digitValues? body).filter fun digits => digits.length ≤ digitLimit).map fun digits =>
    let n : Int := ofDigits 10 digits
    if negative then -n else n

/-- A text with its ASCII letters in lower case. -/
def lowered (t : Text) : Text :=
  t.map fun c => if h : 0x41 ≤ c.val ∧ c.val ≤ 0x5A then ⟨c.val + 0x20, by omega⟩ else c

/-- Digits that may be missing. -/
def optionalDigits? (t : Text) : Option (List Nat) :=
  if t.isEmpty then some [] else digitValues? t

/-- A decimal: digits with at most one point among or beside them. -/
def decimal? (t : Text) : Option (Nat × Int) :=
  let whole := t.takeWhile fun c => c.val ≠ 0x2E
  match t.drop whole.length with
  | [] => (digitValues? whole).map fun digits => (ofDigits 10 digits, 0)
  | _ :: places =>
    if whole.isEmpty && places.isEmpty then none
    else do
      let front ← optionalDigits? whole
      let back ← optionalDigits? places
      some (ofDigits 10 (front ++ back), -back.length)

/-- A decimal with an exponent of ten, if it has one. -/
def scientific? (t : Text) : Option (Nat × Int) :=
  let mantissa := t.takeWhile fun c => c.val ≠ 0x65
  match t.drop mantissa.length with
  | [] => decimal? mantissa
  | _ :: power => do
    let (digits, scale) ← decimal? mantissa
    let (negative, body) := splitSign power
    let n : Int := ofDigits 10 (← digitValues? body)
    some (digits, scale + if negative then -n else n)

/-- A double in words. -/
def readDouble? (t : Text) : Option Binary64 :=
  let (negative, body) := splitSign (lowered (unpadded t))
  if body = Text.ofString "inf" ∨ body = Text.ofString "infinity" then
    some (Binary64.infinity negative)
  else if body = Text.ofString "nan" then some Binary64.nan
  else (scientific? body).map fun (digits, scale) => Binary64.ofDecimal negative digits scale

end LineRuns.Number
