import LineRuns.Document.Style

/-!
# Tokens of documents

A document is a row of tokens. Most of them are written by a mark or a scalar; others are not
written at all. Where a block begins and ends follows from indentation, and that something is a
key shows only when a colon comes after it: the reader remembers for each depth of brackets what
may turn out to be a key, and puts the tokens for it where it began. A key stands on one line,
and no more than 1024 code points lie between its front and its colon.
-/

namespace LineRuns.Document

/-- A token. A scalar knows whether it is plain; `broken` ends the tokens of a document that
cannot be read on. -/
inductive Token
  | directive (d : Directive)
  | documentStart
  | documentEnd
  | blockList
  | blockMap
  | blockEnd
  | listOpen
  | listClose
  | mapOpen
  | mapClose
  | comma
  | item
  | key
  | value
  | reference (name : Text)
  | name (name : Text)
  | tag (t : TagName)
  | scalar (isPlain : Bool) (t : Text)
  | broken (e : DocumentError)
  deriving DecidableEq, Repr

/-! ## The state of reading -/

/-- What may turn out to be a key: the number of its first token, where it began, and whether
only a key can stand there. -/
structure PossibleKey where
  number : Nat
  index : Nat
  line : Nat
  column : Nat
  isRequired : Bool
  deriving Repr

/-- A document that is read as far as `place`, inside `depth` brackets and a block indented by
`indent` inside those of `outer`. A key may start here if `keyAllowed`; `keys` are the possible
keys by their depth. The tokens so far are `count`, the last first. -/
structure Reading where
  place : Place
  depth : Nat
  indent : Int
  outer : List Int
  keyAllowed : Bool
  keys : List (Nat × PossibleKey)
  count : Nat
  tokens : List Token

namespace Reading

/-- Nothing is read yet; the document is indented less than any line. -/
def front (t : Text) : Reading :=
  ⟨.front t, 0, -1, [], true, [], 0, []⟩

/-- Whether the reader is inside brackets. -/
def inFlow (r : Reading) : Bool :=
  r.depth != 0

/-- A further token. -/
def emit (r : Reading) (token : Token) : Reading :=
  { r with count := r.count + 1, tokens := token :: r.tokens }

/-- A further token in front of the one with a number. -/
def emitAt (r : Reading) (number : Nat) (token : Token) : Reading :=
  { r with count := r.count + 1, tokens := r.tokens.insertIdx (r.count - number) token }

/-- A token that is written with so many code points. -/
def mark (r : Reading) (length : Nat) (token : Token) : Reading :=
  { r.emit token with place := r.place.skip length }

/-! ## Indentation -/

/-- A block begins, unless one is there that is indented as far; whether it did. -/
def indented (r : Reading) (column : Nat) : Reading × Bool :=
  if r.indent < column then
    ({ r with indent := column, outer := r.indent :: r.outer }, true)
  else (r, false)

/-- The blocks end that are indented further than a column, unless the reader is inside
brackets. -/
def unwound (r : Reading) (column : Int) : Reading :=
  if r.inFlow then r
  else
    let ended := (r.indent :: r.outer).takeWhile fun indent => column < indent
    match (r.indent :: r.outer).drop ended.length with
    | [] => r
    | indent :: outer =>
      { r with
        indent, outer
        count := r.count + ended.length
        tokens := List.replicate ended.length .blockEnd ++ r.tokens }

/-! ## Possible keys -/

/-- Forgets what can no longer be a key. -/
def withoutStaleKeys (r : Reading) : Result Reading :=
  let isStale (key : PossibleKey) : Bool :=
    key.line != r.place.line || key.index + 1024 < r.place.index
  if r.keys.any fun (_, key) => isStale key && key.isRequired then .error .malformed
  else .ok { r with keys := r.keys.filter fun (_, key) => !isStale key }

/-- Forgets the possible key at this depth. -/
def withoutKey (r : Reading) : Result Reading :=
  match r.keys.lookup r.depth with
  | none => .ok r
  | some key =>
    if key.isRequired then .error .malformed
    else .ok { r with keys := r.keys.filter fun (depth, _) => depth != r.depth }

/-- What comes next may turn out to be a key, if one is allowed. -/
def withKey (r : Reading) : Result Reading :=
  if r.keyAllowed then do
    let r ← r.withoutKey
    let key : PossibleKey :=
      ⟨r.count, r.place.index, r.place.line, r.place.column,
        !r.inFlow && r.indent == r.place.column⟩
    .ok { r with keys := (r.depth, key) :: r.keys }
  else .ok r

/-! ## Marks -/

/-- The length of the spaces, comments and line ends in front of the next token, and whether a
line ends among them. -/
def fill (inComment : Bool) : Text → Nat × Bool
  | [] => (0, false)
  | c :: rest =>
    if isBreak c then ((fill false rest).1 + 1, true)
    else if inComment || isSpace c then
      let (length, hasBreak) := fill inComment rest
      (length + 1, hasBreak)
    else if c.val = 0x23 then
      let (length, hasBreak) := fill true rest
      (length + 1, hasBreak)
    else (0, false)

/-- Goes to the next token. A byte order mark in front of the document is skipped; after a line
end outside brackets a key may start. -/
def atToken (r : Reading) : Reading :=
  let place :=
    if r.place.index == 0 && (r.place.rest.take 1).any (·.val == 0xFEFF) then r.place.next
    else r.place
  let (length, hasBreak) := fill false place.rest
  { r with
    place := place.skip length
    keyAllowed := r.keyAllowed || (hasBreak && !r.inFlow) }

/-- All blocks end, and no key may start. -/
def closed (r : Reading) : Result Reading :=
  (r.unwound (-1)).withoutKey.map fun r => { r with keyAllowed := false }

/-- An opening bracket. -/
def opening (r : Reading) (token : Token) : Result Reading := do
  let r ← r.withKey
  return { r.mark 1 token with depth := r.depth + 1, keyAllowed := true }

/-- A closing bracket, which must have been opened. -/
def closing (r : Reading) (token : Token) : Result Reading := do
  if r.depth = 0 then .error .malformed
  else
    let r ← r.withoutKey
    return { r.mark 1 token with depth := r.depth - 1, keyAllowed := false }

/-- A comma. -/
def comma (r : Reading) : Result Reading := do
  let r ← r.withoutKey
  return { r.mark 1 .comma with keyAllowed := true }

/-- A mark that begins a block at its column where none is, and that a key must be allowed
for. -/
def blockMark (r : Reading) (start : Token) : Result Reading :=
  if r.inFlow then .ok r
  else if !r.keyAllowed then .error .malformed
  else
    match r.indented r.place.column with
    | (r, true) => .ok (r.emit start)
    | (r, false) => .ok r

/-- The dash of an item. -/
def item (r : Reading) : Result Reading := do
  let r ← (← r.blockMark .blockList).withoutKey
  return { r.mark 1 .item with keyAllowed := true }

/-- The question mark of a key. -/
def key (r : Reading) : Result Reading := do
  let r ← (← r.blockMark .blockMap).withoutKey
  return { r.mark 1 .key with keyAllowed := !r.inFlow }

/-- The colon of a value. What may be a key in front of it is one. -/
def value (r : Reading) : Result Reading := do
  match r.keys.lookup r.depth with
  | some found =>
    let r := { r with keys := r.keys.filter fun (depth, _) => depth != r.depth }
    let r := r.emitAt found.number .key
    let r := match if r.inFlow then (r, false) else r.indented found.column with
      | (r, true) => r.emitAt found.number .blockMap
      | (r, false) => r
    return { r.mark 1 .value with keyAllowed := false }
  | none =>
    let r ← (← r.blockMark .blockMap).withoutKey
    return { r.mark 1 .value with keyAllowed := !r.inFlow }

/-! ## Scalars and properties -/

/-- A marker of the start or the end of a document. -/
def marker (r : Reading) (token : Token) : Result Reading :=
  r.closed.map fun r => r.mark 3 token

/-- A directive. -/
def directive (r : Reading) (rest : Text) : Result Reading := do
  let r ← r.closed
  match directive? rest with
  | some (d, rest) => return { r.emit (.directive d) with place := r.place.upTo rest }
  | none => .error .malformed

/-- A name or a tag, which may be the front of a key. -/
def property (r : Reading) (found : Option (Token × Text)) : Result Reading := do
  let r ← r.withKey
  match found with
  | some (token, rest) =>
    return { r.emit token with place := r.place.upTo rest, keyAllowed := false }
  | none => .error .malformed

/-- An indented scalar after its mark. -/
def indentedScalar (r : Reading) (fold : Bool) : Result Reading := do
  let r ← { r with keyAllowed := true }.withoutKey
  match indented? fold r.indent r.place.next with
  | some (t, place) => return { r.emit (.scalar false t) with place }
  | none => .error .malformed

/-- A quoted scalar after its quote, which may be a key. -/
def quotedScalar (r : Reading) (double : Bool) (rest : Text) : Result Reading := do
  let r ← r.withKey
  let (t, taken) ← quoted double rest
  return { r.mark (taken + 1) (.scalar false t) with keyAllowed := false }

/-- A plain scalar, which may be a key. -/
def plainScalar (r : Reading) : Result Reading := do
  let r ← r.withKey
  let found := plain r.inFlow (r.indent + 1) r.place
  return { r.emit (.scalar true found.text) with place := found.after, keyAllowed := found.hasBreak }

/-! ## Tokens -/

/-- Reads on by what starts with a code point. -/
def readFrom (r : Reading) (c : CodePoint) (rest : Text) : Result Reading :=
  let atFront := r.place.column == 0
  let inBlock := !r.inFlow
  if atFront && c.val == 0x25 then r.directive rest
  else if atFront && startsMarker "---" (c :: rest) then r.marker .documentStart
  else if atFront && startsMarker "..." (c :: rest) then r.marker .documentEnd
  else if c.val = 0x5B then r.opening .listOpen
  else if c.val = 0x7B then r.opening .mapOpen
  else if c.val = 0x5D then r.closing .listClose
  else if c.val = 0x7D then r.closing .mapClose
  else if c.val = 0x2C then r.comma
  else if c.val = 0x2D ∧ atGap rest then r.item
  else if c.val = 0x3F ∧ (r.inFlow ∨ atGap rest) then r.key
  else if c.val = 0x3A ∧ (r.inFlow ∨ atGap rest) then r.value
  else if c.val = 0x2A then
    r.property ((nodeName? rest).map fun (name, rest) => (.reference name, rest))
  else if c.val = 0x26 then
    r.property ((nodeName? rest).map fun (name, rest) => (.name name, rest))
  else if c.val = 0x21 then
    r.property ((tag? (c :: rest)).map fun (name, rest) => (.tag name, rest))
  else if c.val = 0x7C ∧ inBlock then r.indentedScalar false
  else if c.val = 0x3E ∧ inBlock then r.indentedScalar true
  else if c.val = 0x27 then r.quotedScalar false rest
  else if c.val = 0x22 then r.quotedScalar true rest
  else if startsPlain r.inFlow (c :: rest) then r.plainScalar
  else .error .malformed

/-- Reads the next token, with those that are not written in front of it; the end of the document
is none. -/
def step (r : Reading) : Result (Reading × Bool) := do
  let r ← r.atToken.withoutStaleKeys
  let r := r.unwound r.place.column
  match r.place.rest with
  | [] => return (← r.closed, true)
  | c :: rest => return (← r.readFrom c rest, false)

/-- All tokens. Each step takes at least one code point, so the length of the document is fuel
enough. -/
def run (fuel : Nat) (r : Reading) : List Token :=
  match fuel with
  | 0 => r.tokens.reverse
  | fuel + 1 =>
    match r.step with
    | .error e => (Token.broken e :: r.tokens).reverse
    | .ok (r, true) => r.tokens.reverse
    | .ok (r, false) => run fuel r

end Reading

/-- The tokens of a document. -/
def tokens (t : Text) : List Token :=
  (Reading.front t).run (t.length + 1)

end LineRuns.Document
