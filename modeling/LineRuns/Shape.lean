import LineRuns.Line
import LineRuns.Number.Binary64
import LineRuns.Text.Basic

/-!
# Fonts and glyphs

What a font gives, at a size, and how a run is laid out with it.
-/

namespace LineRuns.Shape

/-! ## Fonts

A font gives code points their glyphs and glyphs their advances, in its own units; code points
that it does not cover share glyph zero. A scaled font measures in fixed-point pixels.
-/

/-- A font: the code points it covers, in the order of their glyphs, and advances by glyph. -/
structure Font where
  unitsPerEm : Nat
  coverage : List (Nat × Nat)
  advance : Nat → Nat

/-- The glyph of a number in ranges whose first glyph is `next`. -/
def glyphIn (c : Nat) : (next : Nat) → List (Nat × Nat) → Nat
  | _, [] => 0
  | next, (first, last) :: rest =>
    if first ≤ c ∧ c ≤ last then next + (c - first)
    else glyphIn c (next + (last + 1 - first)) rest

/-- The glyph of a code point; glyph zero if the font does not cover it. -/
def Font.glyph (font : Font) (c : CodePoint) : Nat :=
  glyphIn c.val 1 font.coverage

/-- A font at a size: `scale` is the size of its em in fixed-point units. -/
structure ScaledFont where
  font : Font
  scale : Int

/-- What one unit of the font measures, in parts of 65536 of a fixed-point unit, without what is
left of a part. The scale and its share are numbers of single precision. -/
def ScaledFont.unit (scaled : ScaledFont) : Int :=
  let whole := Number.roundBits Number.singleDigits (scaled.scale.natAbs * Nat.pow 2 16) 1
  let share := Number.roundBits Number.singleDigits whole.1 (whole.2 * scaled.font.unitsPerEm)
  let magnitude : Int := share.1 / share.2
  if scaled.scale < 0 then -magnitude else magnitude

/-- The advance of a glyph in fixed-point units, rounded to the nearest. -/
def ScaledFont.advance (scaled : ScaledFont) (glyph : Nat) : Int :=
  (scaled.font.advance glyph * scaled.unit + Int.pow 2 15) / Int.pow 2 16

/-- Why a font has no scale for a size: the size has no units, or more than a scale can hold,
even more than a word of 64 bits or not. -/
inductive ScaleError
  | size (e : Number.FixedError)
  | tooLarge (beyondWord : Bool)
  deriving DecidableEq, Repr

/-- The wording of a scale error. -/
def ScaleError.message : ScaleError → Text
  | .size e => e.message
  | .tooLarge _ => "value too large to convert to int"

/-- A font at a size in pixels. Scales are words of 32 bits. -/
def Font.atSize (font : Font) (size : Number.Amount) : Except ScaleError ScaledFont := do
  let scale ← size.units.mapError .size
  if scale < -Int.pow 2 63 ∨ Int.pow 2 63 ≤ scale then .error (.tooLarge true)
  else if scale < -Int.pow 2 31 ∨ Int.pow 2 31 ≤ scale then .error (.tooLarge false)
  else .ok ⟨font, scale⟩

/-- The octets at the front of a font's file: a mark of its kind, and what is no text. -/
def fileMark : List UInt8 :=
  [0x00, 0x01, 0x00, 0x00, 0xFF]

/-- A plain font of a thousand units per em, for specimens: printable ASCII, the basic Cyrillic
letters, the Hebrew letters, two kana and one astral letter. -/
def Font.specimen : Font where
  unitsPerEm := 1000
  coverage := [(0x20, 0x7E), (0x410, 0x44F), (0x5D0, 0x5EA), (0x3042, 0x3042),
    (0x30AB, 0x30AB), (0x1D400, 0x1D400)]
  advance glyph :=
    if glyph = 0 then 500 else if glyph = 1 then 250 else 300 + 37 * glyph % 401

/-! ## Glyphs of runs

A run is laid out on its own, as the code points of the line's text that it covers. Each code
point gives one glyph, in the order of the run's direction, and knows its place in the line; what
only changes the code point before it has that one's place. In right-to-left runs brackets are
mirrored. A run without a direction takes that of its first letter with a script of its own.
Spaces and code points that are not meant to be seen need no glyph of their own in the font: the
plain space stands in for them.
-/

/-- A glyph at its place: the code point it stands for, by its place in the line, and four
lengths in fixed-point units. -/
structure Glyph where
  id : Nat
  cluster : Nat
  xAdvance : Int
  yAdvance : Int
  xOffset : Int
  yOffset : Int
  deriving DecidableEq, Repr

/-- A run with its glyphs. -/
structure ShapedRun where
  run : Run
  glyphs : List Glyph
  deriving DecidableEq, Repr

/-- The width of a run is the sum of its glyphs' advances. -/
def ShapedRun.width (shaped : ShapedRun) : Int :=
  shaped.glyphs.foldr (fun glyph width => glyph.xAdvance + width) 0

/-- Glyph zero stands for a code point that the font does not cover. -/
def missing (ids : List Nat) : Nat :=
  ids.count 0

/-- The number of missing glyphs of a run. -/
def ShapedRun.missing (shaped : ShapedRun) : Nat :=
  Shape.missing (shaped.glyphs.map Glyph.id)

/-- The brackets that mirror each other. -/
def mirrored : List (CodePoint × CodePoint) :=
  [(0x28, 0x29), (0x29, 0x28), (0x3C, 0x3E), (0x3E, 0x3C), (0x5B, 0x5D), (0x5D, 0x5B),
    (0x7B, 0x7D), (0x7D, 0x7B)]

/-- The mirror image of a bracket; other code points are their own. -/
def mirror (c : CodePoint) : CodePoint :=
  (mirrored.lookup c).getD c

/-- The scripts that are written from right to left. -/
def leftwardScripts : List String :=
  ["Adlm", "Arab", "Armi", "Avst", "Chrs", "Cprt", "Elym", "Gara", "Hatr", "Hebr", "Khar", "Lydi",
    "Mand", "Mani", "Mend", "Merc", "Mero", "Narb", "Nbat", "Nkoo", "Orkh", "Ougr", "Palm", "Phli",
    "Phlp", "Phnx", "Prti", "Rohg", "Samr", "Sarb", "Sidt", "Sogd", "Sogo", "Syrc", "Thaa", "Yezi"]

/-- Whether a text without a direction goes from right to left: the first of its code points with
a script of its own has one of those scripts. -/
def goesLeft (t : Text) : Bool :=
  let own := (t.map Unicode.script).find? fun s => s != "Zyyy" && s != "Zinh" && s != "Zzzz"
  own.any leftwardScripts.contains

/-! ### Code points that the font does not cover -/

/-- The code points that are only other spellings of an ASCII one. -/
def spellings : List (CodePoint × CodePoint) :=
  [(0x37E, 0x3B), (0x1FEF, 0x60), (0x212A, 0x4B)]

/-- The code points that are not meant to be seen. -/
def isInvisible (c : CodePoint) : Bool :=
  let between (first last : Nat) : Bool := first ≤ c.val && c.val ≤ last
  [0xAD, 0x34F, 0x61C, 0xFEFF].contains c.val || between 0x17B4 0x17B5 || between 0x180B 0x180E ||
    between 0x200B 0x200F || between 0x202A 0x202E || between 0x2060 0x206F ||
    between 0xFE00 0xFE0F || between 0xFFF0 0xFFF8 || between 0x1D173 0x1D17A ||
    between 0xE0000 0xE0FFF

/-- How wide a space is: a share of the em, as wide as a glyph of the font, or half as wide. -/
inductive SpaceWidth
  | share (num den : Int)
  | like (c : CodePoint)
  | halfOf (c : CodePoint)
  deriving DecidableEq, Repr

/-- The spaces and their widths. -/
def spaceWidths : List (CodePoint × SpaceWidth) :=
  [(0xA0, .like 0x20), (0x2000, .share 1 2), (0x2001, .share 1 1), (0x2002, .share 1 2),
    (0x2003, .share 1 1), (0x2004, .share 1 3), (0x2005, .share 1 4), (0x2006, .share 1 6),
    (0x2007, .like 0x30), (0x2008, .like 0x2E), (0x2009, .share 1 5), (0x200A, .share 1 16),
    (0x202F, .halfOf 0x20), (0x205F, .share 4 18), (0x3000, .share 1 1)]

/-- The width of a space in fixed-point units. A plain share is rounded to the nearest upwards,
and every other width towards zero. -/
def ScaledFont.spaceAdvance (font : ScaledFont) : SpaceWidth → Int
  | .share num den =>
    if num = 1 then (font.scale + den.tdiv 2).tdiv den else (font.scale * num).tdiv den
  | .like c => font.advance (font.font.glyph c)
  | .halfOf c => (font.advance (font.font.glyph c)).tdiv 2

/-- The glyph of a code point and its advance. Another spelling has the glyph of what it spells; a
space has the glyph of the plain space and a width of its own; what is not meant to be seen is
the plain space without a width. All else that the font does not cover is glyph zero. -/
def ScaledFont.glyphOf (font : ScaledFont) (c : CodePoint) : Nat × Int :=
  let plain (c : CodePoint) : Nat × Int :=
    let id := font.font.glyph c
    (id, font.advance id)
  let space := font.font.glyph 0x20
  if font.font.glyph c ≠ 0 then plain c
  else
    match spellings.lookup c, spaceWidths.lookup c with
    | some d, _ => plain d
    | none, some width => (space, font.spaceAdvance width)
    | none, none => if isInvisible c then (space, 0) else plain c

/-! ### Clusters -/

/-- The letters that make a flag in pairs. -/
def isFlagLetter (c : CodePoint) : Bool :=
  0x1F1E6 ≤ c.val && c.val ≤ 0x1F1FF

/-- The code points that change the one before them. -/
def isModifier (c : CodePoint) : Bool :=
  (0x1F3FB ≤ c.val && c.val ≤ 0x1F3FF) || (0xFF9E ≤ c.val && c.val ≤ 0xFF9F) ||
    (0xE0020 ≤ c.val && c.val ≤ 0xE007F)

/-- The places of code points from `place` on, where one that belongs to the one before it has
that one's place. `flagOpen` is whether the one before is the first letter of a flag. -/
def clustersFrom (place before : Nat) (flagOpen : Bool) : Text → List Nat
  | [] => []
  | c :: rest =>
    let closesFlag := flagOpen && isFlagLetter c
    let cluster := if closesFlag || isModifier c then before else place
    cluster :: clustersFrom (place + 1) cluster (isFlagLetter c && !closesFlag) rest

/-- The places of the code points of a text whose first one is at `offset` in its line. -/
def clusters (offset : Nat) (t : Text) : List Nat :=
  clustersFrom offset offset false t

/-! ### Runs -/

/-- The glyphs of a text whose first code point is at `offset` in its line. -/
def glyphsOf (font : ScaledFont) (leftward : Bool) (offset : Nat) (t : Text) : List Glyph :=
  let placed := (t.zip (clusters offset t)).map fun (c, cluster) =>
    let (id, advance) := font.glyphOf (if leftward then mirror c else c)
    (⟨id, cluster, advance, 0, 0, 0⟩ : Glyph)
  if leftward then placed.reverse else placed

/-- The part of a line's text that is laid out for a run given in code points. -/
def part (line : Line) (range : Nat × Nat) : Text :=
  (line.text.drop range.1).take range.2

/-- Lays out one run of a line. -/
def shapeRun (font : ScaledFont) (line : Line) (run : Run) :
    Except Cursor.OutOfRange ShapedRun := do
  let range ← line.codePointRange run
  let t := part line range
  let leftward := match run.direction with
    | .leftToRight => false
    | .rightToLeft => true
    | .invalid => goesLeft t
  return ⟨run, glyphsOf font leftward range.1 t⟩

/-- Lays out all runs of a line, in the order they have. -/
def shapeLine (font : ScaledFont) (line : Line) : Except Cursor.OutOfRange (List ShapedRun) :=
  line.runs.mapM (shapeRun font line)

end LineRuns.Shape
