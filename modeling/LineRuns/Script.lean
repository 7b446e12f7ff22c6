import LineRuns.Text.Basic
import LineRuns.Text.Units
import LineRuns.Unicode.Property
import LineRuns.Unicode.ScriptRows

/-!
# Scripts and languages

The scripts of a code point, the stretches of code points that share one, and the codes of
languages.
-/

namespace LineRuns.Script

/-! ## Script sets

Each code point comes with the set of scripts it is used with. A lookup gives the set in any
order, or fails; `extensions` puts it in the order of the scripts and keeps the first of many.
Scripts are ordered by the first code points that have them, so Latin comes before Greek and
Greek before Arabic; codes that no code point has come last, by name. A failed lookup leaves no
script at all, which no neighbour can share.
-/

/-- A four-letter code of a script; any other text is a code that nothing knows. -/
abbrev Code := String

/-- The set of scripts of each code point, in any order, where the lookup does not fail. -/
abbrev Lookup := CodePoint → Option (List Code)

/-- The script of code points that marks of all scripts share. -/
def inherited : Code := "Zinh"

/-- The script of what has no known script. -/
def unknown : Code := "Zzzz"

/-- At most so many scripts of a code point count. -/
def maxScripts : Nat := 32

/-! ## Lookups -/

/-- The lookup of the standard's script extensions. -/
def Lookup.standard : Lookup :=
  fun c => some (Unicode.scriptExtensions c)

/-- A lookup with some answers changed; of two changes at one code point the later counts. -/
def Lookup.changed (lookup : Lookup) (changes : List (CodePoint × Option (List Code))) : Lookup :=
  changes.foldl (fun l change c => if c = change.1 then change.2 else l c) lookup

/-! ## The order of scripts -/

/-- All scripts that code points have, in the order of their first code points. -/
def ranked : List Code :=
  (Unicode.scriptRows.map Prod.snd).eraseDups

/-- The rank of a script; codes that no code point has all rank last. -/
def rank (code : Code) : Nat :=
  ranked.idxOf code

/-- The order of scripts: by rank, and by name where ranks are equal. -/
def precedes (a b : Code) : Bool :=
  rank a < rank b || (rank a == rank b && a < b)

/-- Puts a code in its place among ordered codes; one that is there already stays alone. -/
def insert (code : Code) : List Code → List Code
  | [] => [code]
  | first :: rest =>
    if precedes code first then code :: first :: rest
    else if code = first then first :: rest
    else first :: insert code rest

/-- The codes of a set, in order and each once. -/
def ordered (codes : List Code) : List Code :=
  codes.foldr insert []

/-! ## Sets of code points and of stretches -/

/-- The scripts of a code point that count, in order; none if the lookup fails. -/
def extensions (lookup : Lookup) (c : CodePoint) : List Code :=
  match lookup c with
  | none => []
  | some codes => (ordered codes).take maxScripts

/-- A set that holds inherited alone asks nothing of its neighbours. -/
def isInherited (codes : List Code) : Bool :=
  codes == [inherited]

/-- The scripts at a number, which is a code point or has none. -/
def extensionsAt (lookup : Lookup) (c : Option CodePoint) : List Code :=
  (c.map (extensions lookup)).getD []

/-- The scripts that are left when a stretch is joined by one with the set `codes`: those that
both have, in the order they had, or all of them if `codes` asks nothing. -/
def narrowBy (codes current : List Code) : List Code :=
  if isInherited codes then current else current.filter (codes.contains ·)

/-- What is left of the scripts of a stretch when a code point joins it. -/
def narrow (lookup : Lookup) (current : List Code) (c : CodePoint) : List Code :=
  narrowBy (extensions lookup c) current

/-- The tag of a script for shaping: a named code is its own tag, all else is unknown. -/
def tag (code : Option Code) : Code :=
  match code with
  | some code => if Unicode.namedScripts.contains code then code else unknown
  | none => unknown

/-! ## Stretches that share a script

From a position in the code units, the longest stretch is sought whose code points have a
script in common. It starts with the scripts of its first code point, and each further one
narrows them; the first that would leave none stays outside. A first code point without scripts
stands alone.
-/

/-- Why no stretch can be sought: nothing to scan, or units asked for that are not there. -/
inductive IntervalError
  | noLength (length : Int)
  | outside (start stop : Int) (size : Nat)
  deriving DecidableEq, Repr

/-- The wording of an interval error. -/
def IntervalError.message : IntervalError → Text
  | .noLength length => "script_interval needs a positive length, got " ++ Text.ofInt length
  | .outside start stop size =>
    "script_interval range [" ++ Text.ofInt start ++ ", " ++ Text.ofInt stop ++
      ") outside buffer of " ++ Text.ofNat size

/-- A stretch from a known start: its length in code units, and its first script if any. -/
structure Interval where
  length : Nat
  script : Option Code
  deriving DecidableEq, Repr

/-- The scripts left after joining as many of the code points as leave one, and the units that
these take. -/
def join (lookup : Lookup) (current : List Code) : Text → Nat × List Code
  | [] => (0, current)
  | c :: rest =>
    match narrow lookup current c with
    -- the code point that would leave nothing is not joined
    | [] => (0, current)
    | code :: codes =>
      let (length, left) := join lookup (code :: codes) rest
      (c.width + length, left)

/-- The longest stretch at the start of a text whose code points share a script. -/
def Interval.ofText (lookup : Lookup) : Text → Interval
  | [] => ⟨0, none⟩
  | c :: rest =>
    let (length, left) := join lookup (extensions lookup c) rest
    ⟨c.width + length, left.head?⟩

/-- The longest stretch from `start` that shares a script, within `length` units. -/
def interval (lookup : Lookup) (units : Array CodeUnit) (start length : Int) :
    Except IntervalError Interval :=
  if length ≤ 0 then .error (.noLength length)
  else if start < 0 ∨ units.size < start + length then
    .error (.outside start (start + length) units.size)
  else .ok (Interval.ofText lookup (Text.ofUnits units start (some (start + length))))

end LineRuns.Script

/-! ## Languages by number

Texts name their language by a code, and stored data by the code's place in `codes`, an order
that therefore never changes. Some codes name a way of writing or a slot for a label and no
language; these, and all that is not in the list, give shaping no tag.
-/

namespace LineRuns.Language

/-- All codes, each at the number that stored data uses for it. -/
def codes : List String := [
  "default", "en", "ja", "fr", "ko_rm", "ar", "de", "int_name",
  "ru", "sv", "zh", "fi", "be", "ka", "ko", "he",
  "nl", "ga", "ja_rm", "el", "it", "es", "zh_pinyin", "th",
  "cy", "sr", "uk", "ca", "hu", "hsb", "eu", "fa",
  "br", "pl", "hy", "kn", "sl", "ro", "sq", "am",
  "fy", "cs", "gd", "sk", "af", "ja_kana", "lb", "pt",
  "hr", "fur", "vi", "tr", "bg", "eo", "lt", "la",
  "kk", "gsw", "et", "ku", "mn", "mk", "lv", "hi"]

/-- Codes that name a way of writing or a slot for a label. -/
def notLanguages : List String :=
  ["default", "int_name", "ko_rm", "ja_rm", "zh_pinyin", "ja_kana"]

/-- The number of a code. -/
def index? (code : Text) : Option Nat :=
  codes.findIdx? fun known => Text.ofString known == code

/-- The code with a number. -/
def code? (index : Int) : Option String :=
  if index < 0 then none else codes[index.toNat]?

/-- The tag that shaping uses for a number, which is the code of a language. -/
def tag? (index : Int) : Option String :=
  (code? index).filter fun code => !notLanguages.contains code

/-- A hint at the language of a text, as a code or as a number. -/
inductive Hint
  | code (known : Text)
  | index (given : Int)
  deriving DecidableEq, Repr

/-- The tag that a hint leads to. -/
def Hint.tag? : Hint → Option String
  | .code known => (index? known).bind fun i => Language.tag? i
  | .index given => Language.tag? given

end LineRuns.Language
