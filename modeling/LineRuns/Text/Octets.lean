import LineRuns.Text.Basic
import LineRuns.Unicode.Property

/-!
# Texts in quotes and as octets

How a text stands in a message, and how it is read from octets in UTF-8 and written as them.
-/

namespace LineRuns.Text

/-! ## Quoted texts

A text in a message stands between quotes and on one line. Apostrophes are the quotes unless
the text has one and no double quote. A backslash stands before the quote in use and before a
backslash; tab, line feed and carriage return have short escapes; any other code point that is
not printable is written by its number, in the shortest of three forms.
-/

/-- A hexadecimal digit, in lower case. -/
def hexDigit (n : Nat) : CodePoint :=
  CodePoint.ofChar (Nat.digitChar (n % 16))

/-- The last `places` hexadecimal digits of a number. -/
def hexDigits : Nat → Nat → Text
  | 0, _ => []
  | places + 1, n => hexDigits places (n / 16) ++ [hexDigit n]

/-- The written form of one code point between quotes. -/
def escaped (quote c : CodePoint) : Text :=
  if c = quote || c.val = 0x5C then [0x5C, c]
  else if c.val = 0x09 then ofString "\\t"
  else if c.val = 0x0A then ofString "\\n"
  else if c.val = 0x0D then ofString "\\r"
  else if Unicode.isPrintable c then [c]
  else if c.val < 0x100 then ofString "\\x" ++ hexDigits 2 c.val
  else if c.val < 0x10000 then ofString "\\u" ++ hexDigits 4 c.val
  else ofString "\\U" ++ hexDigits 8 c.val

/-- The quote for a text: an apostrophe, unless only apostrophes would need escapes. -/
def quoteFor (t : Text) : CodePoint :=
  if t.contains 0x27 && !t.contains 0x22 then 0x22 else 0x27

/-- A text between quotes, with escapes. -/
def quoted (t : Text) : Text :=
  let quote := quoteFor t
  quote :: t.flatMap (escaped quote) ++ [quote]

/-! ## Texts as octets in UTF-8

Octets are read from left to right by a machine that knows how many continuation octets the
last lead octet still owes and which values the next one may have. The first octet that cannot
go on, or an end that comes too early, is reported with the octets of the unfinished sequence.
The ranges after E0, ED, F0 and F4 are what keeps out overlong forms, encoded surrogates and
numbers above the code space. Writing (`octets?`) is defined for texts without surrogates.
-/

/-! ### Faults -/

/-- What is wrong with the first octets that are no UTF-8. -/
inductive OctetFault
  | invalidStart
  | invalidContinuation
  | unexpectedEnd
  deriving DecidableEq, Repr

/-- The first fault of an octet sequence: `bad` is the refused lead octet, or a lead octet and
the continuation octets that were right; it starts at `start`. -/
structure OctetError where
  fault : OctetFault
  start : Nat
  bad : List UInt8
  deriving DecidableEq, Repr

/-- The reason given for a fault. -/
def OctetFault.reason : OctetFault → String
  | .invalidStart => "invalid start byte"
  | .invalidContinuation => "invalid continuation byte"
  | .unexpectedEnd => "unexpected end of data"

/-- The wording of a fault: one octet is shown, several are only located. -/
def OctetError.message (e : OctetError) : Text :=
  let place := match e.bad with
    | [b] => "byte 0x" ++ hexDigits 2 b.toNat ++ " in position " ++ ofNat e.start
    | bs => "bytes in position " ++ ofNat e.start ++ "-" ++ ofNat (e.start + bs.length - 1)
  "'utf-8' codec can't decode " ++ place ++ ": " ++ ofString e.fault.reason

/-! ### Reading -/

/-- A sequence under way: `owed` more octets after the next one, which lies from `low` to
`high`; `bits` is the number read so far and `seen` the octets so far, the last first. -/
structure Pending where
  owed : Nat
  low : Nat
  high : Nat
  bits : Nat
  seen : List UInt8
  deriving DecidableEq, Repr

/-- The sequence that a lead octet opens. -/
def Pending.ofLead (b : UInt8) : Option Pending :=
  let n := b.toNat
  if 0xC2 ≤ n ∧ n ≤ 0xDF then some ⟨0, 0x80, 0xBF, n % 0x20, [b]⟩
  else if n = 0xE0 then some ⟨1, 0xA0, 0xBF, 0, [b]⟩
  else if n = 0xED then some ⟨1, 0x80, 0x9F, n % 0x10, [b]⟩
  else if 0xE1 ≤ n ∧ n ≤ 0xEF then some ⟨1, 0x80, 0xBF, n % 0x10, [b]⟩
  else if n = 0xF0 then some ⟨2, 0x90, 0xBF, 0, [b]⟩
  else if n = 0xF4 then some ⟨2, 0x80, 0x8F, n % 0x08, [b]⟩
  else if 0xF1 ≤ n ∧ n ≤ 0xF3 then some ⟨2, 0x80, 0xBF, n % 0x08, [b]⟩
  else none

/-- The error for a sequence that breaks off before the octet at `position`. -/
def Pending.brokenOff (p : Pending) (fault : OctetFault) (position : Nat) : OctetError :=
  ⟨fault, position - p.seen.length, p.seen.reverse⟩

/-- Reads octets from `position` on, with a sequence under way or between code points. -/
def readOctets (position : Nat) : Option Pending → List UInt8 → Except OctetError Text
  | none, [] => .ok []
  | some p, [] => .error (p.brokenOff .unexpectedEnd position)
  | none, b :: rest =>
    if b.toNat < 0x80 then
      (readOctets (position + 1) none rest).map (Fin.ofNat _ b.toNat :: ·)
    else
      match Pending.ofLead b with
      | none => .error ⟨.invalidStart, position, [b]⟩
      | some p => readOctets (position + 1) (some p) rest
  | some p, b :: rest =>
    if p.low ≤ b.toNat ∧ b.toNat ≤ p.high then
      let bits := p.bits * 0x40 + b.toNat % 0x40
      match p.owed with
      | 0 => (readOctets (position + 1) none rest).map (Fin.ofNat _ bits :: ·)
      | owed + 1 =>
        readOctets (position + 1) (some ⟨owed, 0x80, 0xBF, bits, b :: p.seen⟩) rest
    else .error (p.brokenOff .invalidContinuation position)

/-- The text of an octet sequence, or its first fault. A byte order mark is a code point like
any other. -/
def ofOctets (octets : List UInt8) : Except OctetError Text :=
  readOctets 0 none octets

/-! ### Reading in portions -/

/-- The portions of so many octets of a sequence; `portion` is the one under way, its last octet
first. -/
def portions (size : Nat) (portion : List UInt8) : List UInt8 → List (List UInt8)
  | [] => if portion.isEmpty then [] else [portion.reverse]
  | b :: rest =>
    if portion.length + 1 < size then portions size (b :: portion) rest
    else (b :: portion).reverse :: portions size [] rest

/-- The text of octets that come in portions. A code point may be spread over two of them; what
is `left` of the portion before is read together with the next one, and places of faults are
counted from there. -/
def ofPortions (left : List UInt8) : List (List UInt8) → Except OctetError Text
  | [] => ofOctets left
  | portion :: rest =>
    let octets := left ++ portion
    match ofOctets octets with
    | .ok t => (ofPortions [] rest).map (t ++ ·)
    | .error e =>
      if e.fault = .unexpectedEnd then do
        let t ← ofOctets (octets.take e.start)
        (ofPortions (octets.drop e.start) rest).map (t ++ ·)
      else .error e

/-- The text of a file that is read piece by piece. -/
def ofFileOctets (octets : List UInt8) : Except OctetError Text :=
  ofPortions [] (portions 8192 [] octets)

/-! ### Writing -/

/-- The octets of one code point; surrogates have none. -/
def octetsOf (c : CodePoint) : Option (List UInt8) :=
  let n := c.val
  let tail (n : Nat) : UInt8 := UInt8.ofNat (0x80 + n % 0x40)
  if n < 0x80 then some [UInt8.ofNat n]
  else if n < 0x800 then some [UInt8.ofNat (0xC0 + n / 0x40), tail n]
  else if c.isSurrogate then none
  else if n < 0x10000 then some [UInt8.ofNat (0xE0 + n / 0x1000), tail (n / 0x40), tail n]
  else some [UInt8.ofNat (0xF0 + n / 0x40000), tail (n / 0x1000), tail (n / 0x40), tail n]

/-- The octets of a text; there are none if it has a surrogate. -/
def octets? (t : Text) : Option (List UInt8) :=
  (t.mapM octetsOf).map List.flatten

end LineRuns.Text
