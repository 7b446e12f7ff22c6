import LineRuns.Document.Place
import LineRuns.Text.Octets

/-!
# Properties of nodes

A node may have a name, under which it is referred to later, and a tag that says what kind of
value it writes. A tag is named whole, or by a handle and a name under it; directives at the
front of a document define further handles. Only the tags of the standard handle, two
exclamation marks, mean anything here. Each reader gives the rest of the text back.
-/

namespace LineRuns.Document

/-! ## Names -/

/-- Whether a code point may be in a name: ASCII letters and digits, dash and underscore. -/
def isNameMark (c : CodePoint) : Bool :=
  (0x30 ≤ c.val && c.val ≤ 0x39) || (0x41 ≤ c.val && c.val ≤ 0x5A) ||
    (0x61 ≤ c.val && c.val ≤ 0x7A) || c.val == 0x2D || c.val == 0x5F

/-- The name of a node; only a gap or some marks may follow it. -/
def nodeName? (t : Text) : Option (Text × Text) :=
  let name := t.takeWhile isNameMark
  let rest := t.drop name.length
  if !name.isEmpty && (atGap rest || startsWith "?:,]\x7d%@`" rest) then some (name, rest) else none

/-! ## Tags -/

/-- A tag as it is written: whole, as a lone exclamation mark, or by a handle and a name. -/
inductive TagName
  | whole (name : Text)
  | lone
  | under (handle name : Text)
  deriving DecidableEq, Repr

/-- Whether a code point may be in the name of a tag. -/
def isTagMark (c : CodePoint) : Bool :=
  isNameMark c || isOneOf ";/?:@&=+$,.!~*'()[]" c

/-- The octets that are escaped at the front of a text. Each step takes three code points, so the
length of the text is fuel enough. -/
def escapedOctets? (fuel : Nat) (t : Text) : Option (List UInt8 × Text) :=
  if !startsWith "%" t then some ([], t)
  else
    match fuel, t.drop 1 with
    | fuel + 1, a :: b :: rest => do
      let high ← digit? 16 a
      let low ← digit? 16 b
      let (octets, rest) ← escapedOctets? fuel rest
      some (UInt8.ofNat (high * 16 + low) :: octets, rest)
    | _, _ => none

/-- The name of a tag, which may be empty. Each step takes at least one code point, so the length
of the text is fuel enough. -/
def tagNameFrom? (fuel : Nat) (t : Text) : Option (Text × Text) :=
  match fuel, t with
  | fuel + 1, c :: rest =>
    if isTagMark c then (tagNameFrom? fuel rest).map fun (name, rest) => (c :: name, rest)
    else if c.val = 0x25 then do
      let (octets, rest) ← escapedOctets? t.length t
      let piece ← (Text.ofOctets octets).toOption
      let (name, rest) ← tagNameFrom? fuel rest
      some (piece ++ name, rest)
    else some ([], t)
  | _, _ => some ([], t)

/-- The name of a tag. -/
def tagName? (t : Text) : Option (Text × Text) :=
  (tagNameFrom? t.length t).filter fun found => found.2.length < t.length

/-- A handle: an exclamation mark, or two with or without a name between them. -/
def tagHandle? (t : Text) : Option (Text × Text) :=
  if !startsWith "!" t then none
  else
    let name := (t.drop 1).takeWhile isNameMark
    match t.drop (name.length + 1) with
    | c :: rest =>
      if c.val = 0x21 then some (t.take (name.length + 2), rest)
      else if name.isEmpty && isSpace c then some (t.take 1, c :: rest)
      else none
    | [] => none

/-- A tag, whose first code point is an exclamation mark. Only a space may follow it. -/
def tag? (t : Text) : Option (TagName × Text) := do
  let after := t.drop 1
  let (name, rest) ←
    if startsWith "<" after then do
      let (name, rest) ← tagName? (after.drop 1)
      if startsWith ">" rest then some (TagName.whole name, rest.drop 1) else none
    else if atGap after then some (.lone, after)
    else do
      let word := after.takeWhile fun c => !isSpace c && !isBreak c
      let (handle, rest) ←
        if word.any (·.val == 0x21) then tagHandle? t else some (t.take 1, after)
      let (name, rest) ← tagName? rest
      some (TagName.under handle name, rest)
  if atSpace rest then some (name, rest) else none

/-! ## Directives -/

/-- A directive: the major number of the format's version, a handle for tags, or anything else,
which means nothing. -/
inductive Directive
  | version (major : Nat)
  | handle (name : Text)
  | other
  deriving DecidableEq, Repr

/-- A number in decimal digits. -/
def directiveNumber? (t : Text) : Option (Nat × Text) :=
  let digits := t.takeWhile fun c => (digit? 10 c).isSome
  if digits.isEmpty then none
  else some ((digits.filterMap (digit? 10)).foldl (fun n d => n * 10 + d) 0, t.drop digits.length)

/-- What a directive of a name says. -/
def directiveValue? (name t : Text) : Option (Directive × Text) :=
  if name = "YAML" then do
    let (major, rest) ← directiveNumber? (t.dropWhile isSpace)
    if startsWith "." rest then
      let (_, rest) ← directiveNumber? (rest.drop 1)
      if atSpace rest then some (.version major, rest) else none
    else none
  else if name = "TAG" then do
    let (handle, rest) ← tagHandle? (t.dropWhile isSpace)
    if startsWith " " rest then
      let (_, rest) ← tagName? (rest.dropWhile isSpace)
      if atSpace rest then some (.handle handle, rest) else none
    else none
  else some (.other, t.dropWhile fun c => !isBreak c)

/-- What is left after the rest of a line that may hold nothing but a comment. -/
def afterComment? (t : Text) : Option Text :=
  let rest := t.dropWhile isSpace
  let rest := if startsWith "#" rest then rest.dropWhile fun c => !isBreak c else rest
  if atLineEnd rest then some (rest.drop 1) else none

/-- A directive after its percent sign, with the rest of its line. -/
def directive? (t : Text) : Option (Directive × Text) := do
  let name := t.takeWhile isNameMark
  if name.isEmpty || !atSpace (t.drop name.length) then none
  else
    let (found, rest) ← directiveValue? name (t.drop name.length)
    some (found, ← afterComment? rest)

end LineRuns.Document
