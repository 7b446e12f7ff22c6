import LineRuns.Text.Basic
import LineRuns.Unicode.BidiClassRows
import LineRuns.Unicode.ScriptRows

/-!
# Properties of code points

What is looked up of a code point in the rows of its properties: bidirectional class, script, script
extensions, whether it has a printed form, and its value as a decimal digit.
-/

namespace LineRuns.Unicode

/-! ## Tables of rows

A property of code points is written as rows in the order of their starts: the value of a row
holds from its start up to the start of the next one, the last value to the end.
-/

/-- The value in force at `c`, where `value` is in force before the first row. -/
def valueAt {α : Type} (value : α) (c : Nat) : List (Nat × α) → α
  | [] => value
  | (start, next) :: rest => if c < start then value else valueAt next c rest

/-- Whether `c` lies in one of the ranges, both of whose ends belong to it. -/
def inRanges (c : Nat) (ranges : List (Nat × Nat)) : Bool :=
  ranges.any fun r => r.1 ≤ c && c ≤ r.2

/-! ## Class, script and form

The four properties that lines are divided by or written with: bidirectional class, script,
script extensions, and whether a code point has a printed form.
-/

/-- The bidirectional class of a code point. -/
def bidiClass (c : CodePoint) : BidiClass :=
  valueAt .unassigned c.val bidiClassRows

/-- The one script of a code point. -/
def script (c : CodePoint) : String :=
  valueAt "Zzzz" c.val scriptRows

/-- The scripts that a code point is used with: those that borrow it, else its own script. -/
def scriptExtensions (c : CodePoint) : List String :=
  (valueAt none c.val scriptExtensionRows).getD [script c]

/-- Assigned code points without a printed form: controls, formats, separators except the
space, surrogates and private use. -/
def formless : List (Nat × Nat) := [
  (0x0, 0x1F), (0x7F, 0xA0), (0xAD, 0xAD), (0x600, 0x605), (0x61C, 0x61C), (0x6DD, 0x6DD),
  (0x70F, 0x70F), (0x890, 0x891), (0x8E2, 0x8E2), (0x1680, 0x1680), (0x180E, 0x180E),
  (0x2000, 0x200F), (0x2028, 0x202F), (0x205F, 0x206F), (0x3000, 0x3000), (0xD800, 0xF8FF),
  (0xFEFF, 0xFEFF), (0xFFF9, 0xFFFB), (0x110BD, 0x110BD), (0x110CD, 0x110CD),
  (0x13430, 0x13438), (0x1BCA0, 0x1BCA3), (0x1D173, 0x1D17A), (0xE0001, 0xE0001),
  (0xE0020, 0xE007F), (0xF0000, 0xFFFFD), (0x100000, 0x10FFFD)]

/-- A code point is printable if it is assigned and has a printed form. -/
def isPrintable (c : CodePoint) : Bool :=
  !inRanges c.val formless && bidiClass c != .unassigned

/-! ## Decimal digits

Decimal digits come in blocks of ten, from zero to nine; the blocks of Unicode 14 are listed by
their zeros.
-/

/-- The zeros of all blocks of decimal digits. -/
def decimalZeros : List Nat := [
  0x30, 0x660, 0x6F0, 0x7C0, 0x966, 0x9E6, 0xA66, 0xAE6, 0xB66, 0xBE6, 0xC66, 0xCE6, 0xD66, 0xDE6,
  0xE50, 0xED0, 0xF20, 0x1040, 0x1090, 0x17E0, 0x1810, 0x1946, 0x19D0, 0x1A80, 0x1A90, 0x1B50,
  0x1BB0, 0x1C40, 0x1C50, 0xA620, 0xA8D0, 0xA900, 0xA9D0, 0xA9F0, 0xAA50, 0xABF0, 0xFF10, 0x104A0,
  0x10D30, 0x11066, 0x110F0, 0x11136, 0x111D0, 0x112F0, 0x11450, 0x114D0, 0x11650, 0x116C0,
  0x11730, 0x118E0, 0x11950, 0x11C50, 0x11D50, 0x11DA0, 0x16A60, 0x16AC0, 0x16B50, 0x1D7CE,
  0x1D7D8, 0x1D7E2, 0x1D7EC, 0x1D7F6, 0x1E140, 0x1E2F0, 0x1E950, 0x1FBF0]

/-- The value of a decimal digit. -/
def decimalDigit? (c : CodePoint) : Option Nat :=
  (decimalZeros.find? fun start => start ≤ c.val && c.val ≤ start + 9).map (c.val - ·)

end LineRuns.Unicode
