import LineRuns.Document.Place
import LineRuns.Document.Property

/-!
# Styles of scalars

The three ways in which a scalar is written in a document: plain, in quotes, or as an indented block
of lines.
-/

namespace LineRuns.Document

/-! ## Plain scalars in place

A scalar without quotes is a row of words. It ends before a comment, before a colon that a gap
follows, in flow style before a mark, and where a line is not indented far enough. Whether a key
may follow hangs on whether its last gap had a line end.
-/

/-! ### Words -/

/-- Whether a plain scalar can start here. -/
def startsPlain (inFlow : Bool) : Text → Bool
  | [] => false
  | c :: rest =>
    if isOneOf "-?:" c then !atGap rest && (c.val == 0x2D || !inFlow)
    else !isBlank c && !isBreak c && !isOneOf ",[]\x7b\x7d#&*!|>'\"%@`" c

/-- Where a word ends: before a gap, before a colon that a gap or, in flow style, a bracket or
comma follows, and in flow style before a mark. -/
def endsWord (inFlow : Bool) (c : CodePoint) (rest : Text) : Bool :=
  isBlank c || isBreak c ||
    (c.val == 0x3A && (atGap rest || (inFlow && startsWith ",[]\x7b\x7d" rest))) ||
    (inFlow && isOneOf ",?[]\x7b\x7d" c)

/-- The length of the word at the front of a text. -/
def wordLength (inFlow : Bool) : Text → Nat
  | [] => 0
  | c :: rest => if endsWord inFlow c rest then 0 else wordLength inFlow rest + 1

/-! ### Gaps -/

/-- What stands between two words, or nothing if no further word can follow; how many code points
it takes, and whether a line ends in it. -/
structure Gap where
  text : Text
  taken : Nat
  hasBreak : Bool

/-- The further line ends after one, with the spaces around them; none if a marker ends the
document. -/
def lineEnds : Text → Option Text × Nat
  | [] => (some [], 0)
  | c :: rest =>
    if isBreak c then
      if startsAnyMarker rest then (none, 1)
      else
        let (further, taken) := lineEnds rest
        (further.map (breakOf c :: ·), taken + 1)
    else if isSpace c then
      let (further, taken) := lineEnds rest
      (further, taken + 1)
    else (some [], 0)

/-- The gap at the front of a text. -/
def gap (t : Text) : Gap :=
  let spaces := t.takeWhile isSpace
  match t.drop spaces.length with
  | [] => ⟨spaces, spaces.length, false⟩
  | c :: rest =>
    if isBreak c then
      if startsAnyMarker rest then ⟨[], spaces.length + 1, true⟩
      else
        let (further, taken) := lineEnds rest
        ⟨(further.map (folded c)).getD [], spaces.length + 1 + taken, true⟩
    else ⟨spaces, spaces.length, false⟩

/-! ### Scalars -/

/-- A plain scalar that was read: its text, the place after it and the gap behind it, and whether
a line ends in that gap. -/
structure PlainScalar where
  text : Text
  after : Place
  hasBreak : Bool

/-- The scalar from a word on. `pieces` are the words and gaps before, the last first, and `before`
is the gap right before; lines must be indented by at least `least`. -/
def plainFrom (inFlow : Bool) (least : Int) (pieces : List Text) (before : Gap) (fuel : Nat)
    (p : Place) : PlainScalar :=
  match fuel, wordLength inFlow p.rest with
  | 0, _ | _, 0 => ⟨pieces.reverse.flatten, p, before.hasBreak⟩
  | fuel + 1, length =>
    let pieces := p.rest.take length :: before.text :: pieces
    let afterWord := p.skip length
    let gap := gap afterWord.rest
    let next := afterWord.skip gap.taken
    if gap.text.isEmpty || startsWith "#" next.rest || (!inFlow && next.column < least) then
      ⟨pieces.reverse.flatten, next, gap.hasBreak⟩
    else plainFrom inFlow least pieces gap fuel next

/-- The plain scalar at a place. Each step takes a word, so the length of what is left is fuel
enough. -/
def plain (inFlow : Bool) (least : Int) (p : Place) : PlainScalar :=
  plainFrom inFlow least [] ⟨[], 0, false⟩ p.rest.length p

/-! ## Quoted scalars

A scalar in single quotes is its text, an apostrophe written twice. In double quotes a backslash
escapes. Either may go on in further lines: blanks around a line end count for nothing, and the
line end is folded. Each reader tells how many code points it took.
-/

/-! ### Line ends -/

/-- The further line ends after one, with the blanks around them. No line may start with a
marker. -/
def furtherBreaks (atFront : Bool) (t : Text) : Option (Text × Nat) :=
  match t with
  | [] => some ([], 0)
  | c :: rest =>
    if atFront && startsAnyMarker (c :: rest) then none
    else if isBreak c then
      (furtherBreaks true rest).map fun (further, taken) => (breakOf c :: further, taken + 1)
    else if isBlank c then
      (furtherBreaks false rest).map fun (further, taken) => (further, taken + 1)
    else some ([], 0)

/-! ### Escapes -/

/-- The letters that stand for a code point after a backslash. -/
def escapes : List (Char × Nat) :=
  [('0', 0x00), ('a', 0x07), ('b', 0x08), ('t', 0x09), ('\t', 0x09), ('n', 0x0A), ('v', 0x0B),
    ('f', 0x0C), ('r', 0x0D), ('e', 0x1B), (' ', 0x20), ('"', 0x22), ('\\', 0x5C), ('/', 0x2F),
    ('N', 0x85), ('_', 0xA0), ('L', 0x2028), ('P', 0x2029)]

/-- The number of hexadecimal digits that a letter after a backslash wants. -/
def escapeWidths : List (Char × Nat) :=
  [('x', 2), ('u', 4), ('U', 8)]

/-- The number of hexadecimal digits. -/
def hexNumber? (digits : Text) : Option Nat :=
  (digits.mapM (digit? 16)).map fun values => values.foldl (fun n d => n * 16 + d) 0

/-- A code point by its number in so many hexadecimal digits. -/
def escapedNumber (width : Nat) (t : Text) : Result (Text × Nat) :=
  let digits := t.take width
  match if digits.length = width then hexNumber? digits else none with
  | none => .error .malformed
  | some n =>
    match CodePoint.ofNat? n with
    | some c => .ok ([c], width)
    | none => .error (.content (.noCodePoint n))

/-- What is escaped after a backslash. An escaped line end is nothing. -/
def escaped (t : Text) : Result (Text × Nat) :=
  match t with
  | [] => .error .malformed
  | c :: rest =>
    let letter := Char.ofNat c.val
    match escapes.lookup letter, escapeWidths.lookup letter with
    | some n, _ => .ok ([Fin.ofNat _ n], 1)
    | none, some width => (escapedNumber width rest).map fun (text, taken) => (text, taken + 1)
    | none, none =>
      if isBreak c then
        match furtherBreaks true rest with
        | some (further, taken) => .ok (further, taken + 1)
        | none => .error .malformed
      else .error .malformed

/-! ### Scalars -/

/-- The blanks at the front of a text, or a line end among them, folded. -/
def quotedGap (t : Text) : Result (Text × Nat) :=
  let blanks := t.takeWhile isBlank
  match t.drop blanks.length with
  | [] => .error .malformed
  | c :: rest =>
    if isBreak c then
      match furtherBreaks true rest with
      | some (further, taken) => .ok (folded c further, blanks.length + 1 + taken)
      | none => .error .malformed
    else .ok (blanks, blanks.length)

/-- The scalar up to its closing quote, and how many code points it takes with the quote. Each
step takes at least one code point, so the length of the text is fuel enough. -/
def quotedFrom (double : Bool) (fuel : Nat) (t : Text) : Result (Text × Nat) :=
  match fuel, t with
  | 0, _ | _, [] => .error .malformed
  | fuel + 1, c :: rest =>
    let goOn (piece : Text) (taken : Nat) : Result (Text × Nat) :=
      (quotedFrom double fuel ((c :: rest).drop taken)).map fun (more, n) =>
        (piece ++ more, taken + n)
    if double && c.val == 0x22 then .ok ([], 1)
    else if double && c.val == 0x5C then do
      let (piece, taken) ← escaped rest
      goOn piece (taken + 1)
    else if !double && c.val == 0x27 then
      if startsWith "'" rest then goOn [0x27] 2 else .ok ([], 1)
    else if isBlank c || isBreak c then do
      let (piece, taken) ← quotedGap (c :: rest)
      goOn piece taken
    else goOn [c] 1

/-- The scalar after its opening quote. -/
def quoted (double : Bool) (t : Text) : Result (Text × Nat) :=
  quotedFrom double t.length t

/-! ## Indented scalars

A scalar may be written as a block of lines under a mark. The lines are literal, or folded like
those of other scalars: a line end between two lines that start with no blank is a space. The
block is indented as far as its first line, or as its head says; the head also says whether the
line ends after the last line are kept, dropped, or all but the first dropped.
-/

/-! ### The head -/

/-- What becomes of the line ends after the last line. -/
inductive Tail
  | keep
  | drop
  | one
  deriving DecidableEq, Repr

/-- The head of a block: the fate of its tail, and how far it is indented if that is told. -/
structure BlockHead where
  tail : Tail
  indent : Option Nat

/-- The mark for the fate of the tail. -/
def tailMark? (c : CodePoint) : Option Tail :=
  if c.val = 0x2B then some .keep else if c.val = 0x2D then some .drop else none

/-- The digit for the indentation. -/
def indentDigit? (c : CodePoint) : Option Nat :=
  if 0x31 ≤ c.val ∧ c.val ≤ 0x39 then some (c.val - 0x30) else none

/-- The head at the front of a text, its two marks in either order, and what comes after it. -/
def blockHead (t : Text) : BlockHead × Text :=
  match t with
  | [] => (⟨.one, none⟩, [])
  | c :: rest =>
    match tailMark? c, indentDigit? c with
    | some tail, _ =>
      match rest.head?.bind indentDigit? with
      | some n => (⟨tail, some n⟩, rest.drop 1)
      | none => (⟨tail, none⟩, rest)
    | none, some n =>
      match rest.head?.bind tailMark? with
      | some tail => (⟨tail, some n⟩, rest.drop 1)
      | none => (⟨.one, some n⟩, rest)
    | none, none => (⟨.one, none⟩, c :: rest)

/-! ### The lines -/

/-- The empty lines at the front of a block whose indentation is not known, the deepest column
that a space reached, and the place of the first line. -/
def findIndent (deepest : Nat) (fuel : Nat) (p : Place) : Text × Nat × Place :=
  match fuel, p.rest with
  | 0, _ | _, [] => ([], deepest, p)
  | fuel + 1, c :: _ =>
    if isBreak c then
      let (breaks, deepest, q) := findIndent deepest fuel p.next
      (breakOf c :: breaks, deepest, q)
    else if isSpace c then findIndent (max deepest p.next.column) fuel p.next
    else ([], deepest, p)

/-- The empty lines before the next line of a block, and the place in that line after its
indentation. -/
def emptyLines (indent : Nat) (fuel : Nat) (p : Place) : Text × Place :=
  match fuel, p.rest with
  | 0, _ | _, [] => ([], p)
  | fuel + 1, c :: _ =>
    if isBreak c then
      let (breaks, q) := emptyLines indent fuel p.next
      (breakOf c :: breaks, q)
    else if isSpace c && decide (p.column < indent) then emptyLines indent fuel p.next
    else ([], p)

/-- What is kept of the end of the last line and of the empty lines after it. -/
def Tail.kept (tail : Tail) (final breaks : Text) : Text :=
  match tail with
  | .keep => final ++ breaks
  | .drop => []
  | .one => final

/-- The lines of a block from a place on. `pieces` are those before, the last first, `final` is
the end of the last line, and `breaks` are the empty lines after it. -/
def blockLines (fold : Bool) (tail : Tail) (indent : Nat) (pieces : List Text)
    (final breaks : Text) (fuel : Nat) (p : Place) : Text × Place :=
  match fuel with
  | 0 => (pieces.reverse.flatten ++ tail.kept final breaks, p)
  | fuel + 1 =>
    if p.column ≠ indent || p.rest.isEmpty then
      (pieces.reverse.flatten ++ tail.kept final breaks, p)
    else
      let line := p.rest.takeWhile fun c => !isBreak c
      let lineEnd := p.skip line.length
      let final' := (lineEnd.rest.take 1).map breakOf
      let (breaks', q) := emptyLines indent lineEnd.rest.length lineEnd.next
      let joint :=
        if q.column ≠ indent || q.rest.isEmpty then []
        else if fold && final' == [0x0A] && !startsWith " \t" line && !startsWith " \t" q.rest then
          (if breaks'.isEmpty then [0x20] else [])
        else final'
      blockLines fold tail indent (joint :: line :: breaks :: pieces) final' breaks' fuel q

/-- The indented scalar after its mark, below a node that is indented by `outer`; nothing if its
head is wrong. Each step takes a line, so the length of what is left is fuel enough. -/
def indented? (fold : Bool) (outer : Int) (p : Place) : Option (Text × Place) := do
  let (head, rest) := blockHead p.rest
  if !atSpace rest then none
  else
    let p := p.upTo (← afterComment? rest)
    let least := (max 1 (outer + 1)).toNat
    let size := p.rest.length
    let (breaks, indent, p) := match head.indent with
      | some n =>
        let indent := least + n - 1
        let (breaks, q) := emptyLines indent size p
        (breaks, indent, q)
      | none =>
        let (breaks, deepest, q) := findIndent 0 size p
        (breaks, max least deepest, q)
    some (blockLines fold head.tail indent [] [] breaks (p.rest.length + 1) p)

end LineRuns.Document
