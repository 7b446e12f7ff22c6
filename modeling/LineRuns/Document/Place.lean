import LineRuns.Document.Moment
import LineRuns.Text.Basic

/-!
# Places and faults

Where a reader of a document is, and why it may not come to a value.
-/

namespace LineRuns.Document

/-! ## Faults of documents

A document may be malformed, or well formed and yet write something that stands for nothing.
-/

/-- Why a part of a well-formed document stands for nothing: a whole number without digits or
with too many of them, an escape past the last code point, a sum of sixties whose first group is
worth more than any double, or a date that is none; or the document is too deep. -/
inductive ContentFault
  | noDigits (base : Nat)
  | tooManyDigits (count : Nat)
  | noCodePoint (n : Nat)
  | groupTooLarge
  | moment (e : MomentError)
  | tooDeep
  deriving DecidableEq, Repr

/-- The wording of a content fault. -/
def ContentFault.message : ContentFault → Text
  | .noDigits base => "invalid literal for int() with base " ++ Text.ofNat base ++ ": ''"
  | .tooManyDigits count =>
    "Exceeds the limit (4300 digits) for integer string conversion: value has " ++
      Text.ofNat count ++ " digits; use sys.set_int_max_str_digits() to increase the limit"
  | .noCodePoint _ => "no such code point"
  | .groupTooLarge => "int too large to convert to float"
  | .moment e => e.message
  | .tooDeep => "nested too deep"

/-- Why a text is no document. -/
inductive DocumentError
  | malformed
  | content (fault : ContentFault)
  deriving DecidableEq, Repr

/-- What a reader of documents gives. -/
abbrev Result := Except DocumentError

/-! ## Places in documents

A document is read from front to back. A place knows what is left to read, and how far it is from
the front of the document and of its line: how deep a line is indented carries meaning, and a key
must not be far from its colon. A byte order mark takes no column.
-/

/-! ### Code points with a meaning -/

/-- Whether a code point is one of these. -/
def isOneOf (marks : String) (c : CodePoint) : Bool :=
  (Text.ofString marks).contains c

/-- Whether a code point is a space. -/
def isSpace (c : CodePoint) : Bool :=
  c.val == 0x20

/-- Whether a code point is a space or a tab. -/
def isBlank (c : CodePoint) : Bool :=
  c.val == 0x20 || c.val == 0x09

/-- Whether a code point ends a line. -/
def isBreak (c : CodePoint) : Bool :=
  c.val == 0x0A || c.val == 0x85 || c.val == 0x2028 || c.val == 0x2029

/-- What a line end is in a scalar: a next line is a line feed, the separators stay. -/
def breakOf (c : CodePoint) : CodePoint :=
  if c.val = 0x85 then 0x0A else c

/-- The value of an ASCII digit below a base of at most sixteen. -/
def digit? (base : Nat) (c : CodePoint) : Option Nat :=
  let value :=
    if 0x30 ≤ c.val ∧ c.val ≤ 0x39 then some (c.val - 0x30)
    else if 0x41 ≤ c.val ∧ c.val ≤ 0x46 then some (c.val - 0x41 + 10)
    else if 0x61 ≤ c.val ∧ c.val ≤ 0x66 then some (c.val - 0x61 + 10)
    else none
  value.filter (· < base)

/-- Whether a text starts with one of the marks. -/
def startsWith (marks : String) (t : Text) : Bool :=
  (t.take 1).any (isOneOf marks)

/-- Whether a line ends here. -/
def atLineEnd (t : Text) : Bool :=
  t.isEmpty || (t.take 1).any isBreak

/-- Whether a line ends or a space stands here. -/
def atSpace (t : Text) : Bool :=
  atLineEnd t || (t.take 1).any isSpace

/-- Whether a line ends or a blank stands here. -/
def atGap (t : Text) : Bool :=
  atLineEnd t || (t.take 1).any isBlank

/-- Whether a text starts with a marker of the start or the end of a document. -/
def startsMarker (marker : String) (t : Text) : Bool :=
  (Text.ofString marker).isPrefixOf t && atGap (t.drop 3)

/-- Whether a text starts with either marker. -/
def startsAnyMarker (t : Text) : Bool :=
  startsMarker "---" t || startsMarker "..." t

/-- A line end in a scalar with the further line ends after it: a line feed alone is a space, and
before further line ends it is nothing. A separator stays as it is. -/
def folded (first : CodePoint) (further : Text) : Text :=
  let kept :=
    if breakOf first ≠ 0x0A then [first] else if further.isEmpty then [0x20] else ([] : Text)
  kept ++ further

/-! ### Places -/

/-- A place: what is left, and how many code points, lines and columns are behind. -/
structure Place where
  rest : Text
  index : Nat
  line : Nat
  column : Nat
  deriving Repr

namespace Place

/-- The front of a document. -/
def front (t : Text) : Place :=
  ⟨t, 0, 0, 0⟩

/-- The place after the next code point. -/
def next (p : Place) : Place :=
  match p.rest with
  | [] => p
  | c :: rest =>
    if isBreak c then ⟨rest, p.index + 1, p.line + 1, 0⟩
    else ⟨rest, p.index + 1, p.line, if c.val = 0xFEFF then p.column else p.column + 1⟩

/-- The place after so many code points. -/
def skip : Nat → Place → Place
  | 0, p => p
  | n + 1, p => skip n p.next

/-- The place where `rest` is left. -/
def upTo (rest : Text) (p : Place) : Place :=
  p.skip (p.rest.length - rest.length)

end Place

end LineRuns.Document
