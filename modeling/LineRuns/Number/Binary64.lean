import LineRuns.Text.Basic

/-!
# Numbers in binary digits

Doubles and what they stand for, numbers of fewer binary digits, and lengths in a fixed unit.
-/

namespace LineRuns.Number

/-! ## Doubles as exact numbers

A double is its sixty-four bits. What it stands for is read off them exactly: not a number, an
infinity, or a whole number times a power of two (`Binary64.parts`). In the other direction a
quotient of whole numbers is rounded to the nearest double, of two equally near ones to the even
one, and past the largest double to an infinity (`Binary64.ofQuotient`). All arithmetic here is
exact arithmetic followed by this one rounding.
-/

/-- The whole number nearest to a quotient; of two equally near ones the even one. -/
def roundDiv (num den : Nat) : Nat :=
  let q := num / den
  let r := num % den
  if den < 2 * r ∨ (2 * r = den ∧ q % 2 = 1) then q + 1 else q

/-- A double, as its bits. -/
structure Binary64 where
  bits : UInt64
  deriving DecidableEq, Repr

/-- What the bits of a double stand for; a finite one for `significand * 2 ^ exponent`. -/
inductive Parts
  | nan
  | infinite (negative : Bool)
  | finite (negative : Bool) (significand : Nat) (exponent : Int)
  deriving DecidableEq, Repr

namespace Binary64

/-- Reads the fields of the bits. -/
def parts (x : Binary64) : Parts :=
  let n := x.bits.toNat
  let negative := decide (Nat.pow 2 63 ≤ n)
  let field : Nat := n / Nat.pow 2 52 % Nat.pow 2 11
  let fraction : Nat := n % Nat.pow 2 52
  if field = 0x7FF then
    if fraction = 0 then .infinite negative else .nan
  else if field = 0 then .finite negative fraction (-1074)
  else .finite negative (Nat.pow 2 52 + fraction) (field - 1075)

/-- The bits of a magnitude with a sign in front. -/
def signed (negative : Bool) (magnitude : Nat) : Binary64 :=
  ⟨UInt64.ofNat (if negative then Nat.pow 2 63 + magnitude else magnitude)⟩

/-- The magnitude bits of an infinity. -/
def infinityBits : Nat :=
  0x7FF * Nat.pow 2 52

/-- An infinity. -/
def infinity (negative : Bool) : Binary64 :=
  signed negative infinityBits

/-- The one value that is no number that is made here. -/
def nan : Binary64 :=
  signed false (infinityBits + Nat.pow 2 51)

/-- The greatest `k` with `2 ^ k` at most the quotient of two positive numbers. -/
def floorLog (num den : Nat) : Int :=
  let k : Int := (Nat.log2 num : Int) - Nat.log2 den
  let reaches :=
    if 0 ≤ k then den * Nat.pow 2 k.toNat ≤ num else den ≤ num * Nat.pow 2 (-k).toNat
  if reaches then k else k - 1

/-- The magnitude bits of the double nearest to a quotient, at most those of an infinity. The
bits count up through the doubles in order, so a carry out of the significand needs no care. -/
def magnitude (num den : Nat) : Nat :=
  if num = 0 then 0
  else
    let exponent := max (-1074) (floorLog num den - 52)
    let significand :=
      if 0 ≤ exponent then roundDiv num (den * Nat.pow 2 exponent.toNat)
      else roundDiv (num * Nat.pow 2 (-exponent).toNat) den
    min infinityBits ((exponent + 1074).toNat * Nat.pow 2 52 + significand)

/-- The double nearest to a quotient with a sign in front. -/
def ofQuotient (negative : Bool) (num den : Nat) : Binary64 :=
  signed negative (magnitude num den)

/-- The double nearest to the quotient of an integer, unless it is past the largest one. -/
def ofIntQuotient? (num : Int) (den : Nat) : Option Binary64 :=
  let x := ofQuotient (decide (num < 0)) num.natAbs den
  match x.parts with
  | .infinite _ => none
  | _ => some x

/-- The double nearest to an integer, unless it is past the largest one. -/
def ofInt? (i : Int) : Option Binary64 :=
  ofIntQuotient? i 1

/-- Zero. -/
def zero : Binary64 :=
  signed false 0

/-- Whether a double is at most zero; what is no number is not. -/
def isAtMostZero (x : Binary64) : Bool :=
  match x.parts with
  | .nan => false
  | .infinite negative => negative
  | .finite negative significand _ => negative || significand == 0

/-- Whether a double is a zero of either sign. -/
def isZero (x : Binary64) : Bool :=
  match x.parts with
  | .finite _ significand _ => significand == 0
  | _ => false

/-- A finite double as a quotient whose denominator is a power of two. -/
def toQuotient? (x : Binary64) : Option (Int × Nat) :=
  match x.parts with
  | .finite negative significand exponent =>
    let value : Int := if negative then -significand else significand
    if 0 ≤ exponent then some (value * Int.pow 2 exponent.toNat, 1)
    else some (value, Nat.pow 2 (-exponent).toNat)
  | _ => none

/-- The double nearest to `digits * 10 ^ exponent`. Powers of ten that are past every double in
either direction are not worked out. -/
def ofDecimal (negative : Bool) (digits : Nat) (exponent : Int) : Binary64 :=
  let size := (Nat.toDigits 10 digits).length + exponent
  if digits = 0 ∨ size < -400 then signed negative 0
  else if 400 < size then infinity negative
  else if 0 ≤ exponent then ofQuotient negative (digits * Nat.pow 10 exponent.toNat) 1
  else ofQuotient negative digits (Nat.pow 10 (-exponent).toNat)

end Binary64

/-! ## Numbers of few binary digits

Some lengths are worked out with numbers of twenty-four binary digits. `roundBits` is the nearest
such number to a quotient, as a quotient again; sizes are far from where their range ends.
-/

/-- The number of so many binary digits that is nearest to a quotient, and of two equally near ones
the even one. -/
def roundBits (digits num den : Nat) : Nat × Nat :=
  if num = 0 then (0, 1)
  else
    let exponent := Binary64.floorLog num den + 1 - digits
    if 0 ≤ exponent then
      (roundDiv num (den * Nat.pow 2 exponent.toNat) * Nat.pow 2 exponent.toNat, 1)
    else (roundDiv (num * Nat.pow 2 (-exponent).toNat) den, Nat.pow 2 (-exponent).toNat)

/-- The binary digits of single precision. -/
def singleDigits : Nat := 24

/-! ## Fixed-point numbers

Lengths in layouts are whole numbers of units, of which `unitsPerPixel` make a pixel. An amount
of pixels is turned into units towards zero; units are turned into pixels by the nearest double.
-/

/-- The units of one pixel. -/
def unitsPerPixel : Nat := 65536

/-- An amount of pixels, as a whole number or a double. -/
inductive Amount
  | whole (i : Int)
  | double (x : Binary64)
  deriving DecidableEq, Repr

/-- Why an amount has no units, or units no amount. -/
inductive FixedError
  | infinite
  | notANumber
  | quotientTooLarge
  deriving DecidableEq, Repr

/-- The wording of a fixed-point error. -/
def FixedError.message : FixedError → Text
  | .infinite => "cannot convert float infinity to integer"
  | .notANumber => "cannot convert float NaN to integer"
  | .quotientTooLarge => "integer division result too large for a float"

/-- The units of an amount of pixels. A whole number has exact units; a double must not be past
the largest one when it is multiplied. -/
def Amount.units : Amount → Except FixedError Int
  | .whole i => .ok (i * unitsPerPixel)
  | .double x =>
    match x.parts with
    | .nan => .error .notANumber
    | .infinite _ => .error .infinite
    | .finite negative significand exponent =>
      let scaled := significand * unitsPerPixel
      let whole :=
        if 0 ≤ exponent then scaled * Nat.pow 2 exponent.toNat
        else scaled / Nat.pow 2 (-exponent).toNat
      if Nat.pow 2 1024 ≤ whole then .error .infinite
      else .ok (if negative then -whole else whole)

/-- The pixels of an amount of units. -/
def pixelsOf (units : Int) : Except FixedError Binary64 :=
  match Binary64.ofIntQuotient? units unitsPerPixel with
  | some x => .ok x
  | none => .error .quotientTooLarge

/-- Units as pixels with two decimals; of two equally near decimals the even one is taken. -/
def withTwoPlaces (units : Int) : Text :=
  let hundredths := roundDiv (units.natAbs * 100) unitsPerPixel
  let sign : Text := if units < 0 then "-" else []
  sign ++ Text.ofNat (hundredths / 100) ++ "." ++ Text.ofNat (hundredths / 10 % 10) ++
    Text.ofNat (hundredths % 10)

end LineRuns.Number
