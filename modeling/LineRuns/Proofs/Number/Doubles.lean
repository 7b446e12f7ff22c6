import LineRuns.Number.Binary64
import Mathlib.Tactic.Linarith
import Mathlib.Tactic.Ring

/-!
# Doubles of whole numbers

The bits of a magnitude count up through the doubles in order, so what a double is can be told
from where its bits stand: below the infinity, at it, or past it. A positive whole number has a
double, which is positive, unless it is as near to the first power of two past all doubles as to
the largest double.
-/

namespace LineRuns.Number

/-! ## Rounded quotients -/

theorem le_roundDiv (num den : Nat) : num / den ≤ roundDiv num den := by
  simp only [roundDiv]
  split <;> omega

theorem roundDiv_le (num den : Nat) : roundDiv num den ≤ num / den + 1 := by
  simp only [roundDiv]
  split <;> omega

/-- From the middle below an even number on, a quotient is rounded up to it. -/
theorem le_roundDiv_iff {num half q : Nat} (hhalf : 0 < half) (hq : q % 2 = 0) :
    q ≤ roundDiv num (2 * half) ↔ q * (2 * half) ≤ num + half := by
  have hdiv := Nat.div_add_mod num (2 * half)
  have hmod := Nat.mod_lt num (show 0 < 2 * half by omega)
  have hle := le_roundDiv num (2 * half)
  have hge := roundDiv_le num (2 * half)
  -- Only the even number right above the quotient can be reached by rounding up.
  obtain hlt | heq | hgt := lt_trichotomy (num / (2 * half) + 1) q
  · have hmul := Nat.mul_le_mul_right (2 * half) hlt
    have hfar : num + half < q * (2 * half) := by linarith
    omega
  · have hmul : q * (2 * half) = 2 * half * (num / (2 * half)) + 2 * half := by
      rw [← heq]
      ring
    simp only [roundDiv, hmul]
    split <;> omega
  · have hmul := Nat.mul_le_mul_right (2 * half) (Nat.lt_succ_iff.mp hgt)
    have hnear := hmul.trans (Nat.div_mul_le_self num (2 * half))
    omega

/-! ## Where bits stand -/

/-- What is more than zero. -/
def Parts.IsPositive : Parts → Prop
  | .nan => False
  | .infinite negative => negative = false
  | .finite negative significand _ => negative = false ∧ 0 < significand

namespace Binary64

/-- Whether a double is more than zero, as an infinity may be. -/
def IsPositive (x : Binary64) : Prop :=
  x.parts.IsPositive

/-- What is not at most zero is positive, or no number. -/
theorem isAtMostZero_eq_false_iff {x : Binary64} :
    x.isAtMostZero = false ↔ x.parts = .nan ∨ x.IsPositive := by
  unfold isAtMostZero IsPositive
  cases x.parts with
  | nan => simp
  | infinite negative => simp [Parts.IsPositive]
  | finite negative significand exponent =>
    simp [Parts.IsPositive, Nat.pos_iff_ne_zero]

theorem toNat_bits_signed {m : Nat} (h : m < 2 ^ 63) : (signed false m).bits.toNat = m := by
  simp only [signed, Bool.false_eq_true, if_false, UInt64.toNat_ofNat']
  omega

/-- Bits below those of an infinity are finite, and zero if there are none. -/
theorem parts_signed_of_lt {m : Nat} (h : m < infinityBits) :
    ∃ significand exponent, (signed false m).parts = .finite false significand exponent ∧
      (0 < m → 0 < significand) := by
  have hbits : infinityBits = 2047 * 2 ^ 52 := rfl
  have hm : (signed false m).bits.toNat = m := toNat_bits_signed (by omega)
  simp only [parts, hm, Nat.pow_eq]
  have hsign : decide (2 ^ 63 ≤ m) = false := decide_eq_false (by omega)
  rw [hsign, if_neg (by omega)]
  split
  · exact ⟨_, _, rfl, fun hpos => by omega⟩
  · exact ⟨_, _, rfl, fun _ => by omega⟩

theorem parts_signed_infinityBits : (signed false infinityBits).parts = .infinite false := by
  decide

/-! ## Whole numbers -/

theorem floorLog_one {n : Nat} (h : n ≠ 0) : floorLog n 1 = n.log2 := by
  have hone : Nat.log2 1 = 0 := by decide
  simp [floorLog, hone, Nat.log2_self_le h]

/-- The significand of a whole number: its first 53 binary digits, the rest rounded. -/
def wholeSignificand (n : Nat) : Nat :=
  if 52 ≤ n.log2 then roundDiv n (2 ^ (n.log2 - 52)) else n * 2 ^ (52 - n.log2)

theorem magnitude_one {n : Nat} (h : n ≠ 0) :
    magnitude n 1 = min infinityBits ((n.log2 + 1022) * 2 ^ 52 + wholeSignificand n) := by
  have hmax : max (-1074) ((n.log2 : Int) - 52) = n.log2 - 52 := by omega
  have hfield : ((n.log2 : Int) - 52 + 1074).toNat = n.log2 + 1022 := by omega
  simp only [magnitude, if_neg h, floorLog_one h, hmax, hfield, wholeSignificand, Nat.pow_eq]
  by_cases hlog : 52 ≤ n.log2
  · have hshift : ((n.log2 : Int) - 52).toNat = n.log2 - 52 := by omega
    rw [if_pos (by omega), if_pos hlog, hshift, one_mul]
  · have hshift : (-((n.log2 : Int) - 52)).toNat = 52 - n.log2 := by omega
    rw [if_neg (by omega), if_neg hlog, hshift]
    simp [roundDiv, Nat.mod_one]

theorem wholeSignificand_bounds {n : Nat} (h : n ≠ 0) :
    2 ^ 52 ≤ wholeSignificand n ∧ wholeSignificand n ≤ 2 ^ 53 := by
  have hlow := Nat.log2_self_le h
  have hhigh := Nat.lt_log2_self (n := n)
  unfold wholeSignificand
  split
  · next hlog =>
    have hpos : 0 < 2 ^ (n.log2 - 52) := Nat.two_pow_pos _
    have hfloor : 2 ^ 52 ≤ n / 2 ^ (n.log2 - 52) := by
      rw [Nat.le_div_iff_mul_le hpos, ← pow_add]
      rwa [show 52 + (n.log2 - 52) = n.log2 by omega]
    have hceil : n / 2 ^ (n.log2 - 52) < 2 ^ 53 := by
      rw [Nat.div_lt_iff_lt_mul hpos, ← pow_add]
      rwa [show 53 + (n.log2 - 52) = n.log2 + 1 by omega]
    exact ⟨hfloor.trans (le_roundDiv _ _), (roundDiv_le _ _).trans hceil⟩
  · next hlog =>
    have hmul : n * 2 ^ (52 - n.log2) < 2 ^ (n.log2 + 1) * 2 ^ (52 - n.log2) :=
      Nat.mul_lt_mul_of_pos_right hhigh (Nat.two_pow_pos _)
    have hmul' := Nat.mul_le_mul_right (2 ^ (52 - n.log2)) hlow
    rw [← pow_add] at hmul hmul'
    rw [show n.log2 + 1 + (52 - n.log2) = 53 by omega] at hmul
    rw [show n.log2 + (52 - n.log2) = 52 by omega] at hmul'
    exact ⟨hmul', hmul.le⟩

/-- A positive whole number has bits above those of zero. -/
theorem magnitude_one_pos {n : Nat} (h : n ≠ 0) : 0 < magnitude n 1 := by
  have hbits : 0 < infinityBits := by decide
  have hlow := (wholeSignificand_bounds h).1
  rw [magnitude_one h]
  omega

/-- The bits of a whole number reach those of a power of two from the middle on between it and
the double before it. -/
theorem reaches_power_iff {n : Nat} (h : n ≠ 0) (k : Nat) :
    (k + 1077) * 2 ^ 52 ≤ (n.log2 + 1022) * 2 ^ 52 + wholeSignificand n ↔
      2 ^ (k + 54) ≤ n + 2 ^ k := by
  have hbelow : 2 ^ (k + 53) = 2 ^ 53 * 2 ^ k := by ring
  have hpower : 2 ^ (k + 54) = 2 ^ 53 * (2 * 2 ^ k) := by ring
  obtain ⟨hlow, hhigh⟩ := wholeSignificand_bounds h
  -- Away from the power of two the field of the exponent decides, next to it the significand.
  obtain hlt | heq | hgt := lt_trichotomy n.log2 (k + 53)
  · have hn : n < 2 ^ (k + 53) := (Nat.log2_lt h).mp hlt
    have hhalf : 2 ^ k ≤ 2 ^ 53 * 2 ^ k := Nat.le_mul_of_pos_left _ (by decide)
    omega
  · have hround : wholeSignificand n = roundDiv n (2 * 2 ^ k) := by
      rw [wholeSignificand, if_pos (by omega), heq, show k + 53 - 52 = k + 1 by omega, pow_succ']
    rw [hpower, ← le_roundDiv_iff (Nat.two_pow_pos k) (by decide), ← hround]
    omega
  · have hn : 2 ^ (k + 54) ≤ n := (Nat.le_log2 h).mp hgt
    omega

/-- The whole numbers past the largest double are those from the middle on between it and the
next power of two. -/
theorem infinityBits_le_magnitude_one_iff {n : Nat} (h : n ≠ 0) :
    infinityBits ≤ magnitude n 1 ↔ 2 ^ 1024 ≤ n + 2 ^ 970 := by
  have hbits : infinityBits = (970 + 1077) * 2 ^ 52 := rfl
  rw [magnitude_one h, le_min_iff, and_iff_right le_rfl, hbits, reaches_power_iff h]

theorem magnitude_le (num den : Nat) : magnitude num den ≤ infinityBits := by
  unfold magnitude
  split
  · exact Nat.zero_le _
  · exact min_le_left _ _

/-- The double of a positive whole number, as long as it has one. -/
theorem ofInt?_of_pos {i : Int} (h : 0 < i) :
    ofInt? i =
      if magnitude i.natAbs 1 < infinityBits then some (signed false (magnitude i.natAbs 1))
      else none := by
  simp only [ofInt?, ofIntQuotient?, ofQuotient, decide_eq_false (show ¬i < 0 by omega)]
  obtain hlt | heq := (magnitude_le i.natAbs 1).lt_or_eq
  · obtain ⟨significand, exponent, hparts, -⟩ := parts_signed_of_lt hlt
    simp only [hparts, if_pos hlt]
  · simp only [heq, parts_signed_infinityBits, lt_irrefl, if_false]

/-- A positive whole number has no double if and only if it is past the largest one. -/
theorem ofInt?_eq_none_iff {i : Int} (h : 0 < i) :
    ofInt? i = none ↔ 2 ^ 1024 ≤ i.natAbs + 2 ^ 970 := by
  rw [← infinityBits_le_magnitude_one_iff (by omega), ofInt?_of_pos h]
  simp

theorem isPositive_of_ofInt? {i : Int} {x : Binary64} (h : 0 < i) (hx : ofInt? i = some x) :
    x.IsPositive := by
  rw [ofInt?_of_pos h, Option.ite_none_right_eq_some] at hx
  obtain ⟨hlt, ⟨⟩⟩ := hx
  obtain ⟨significand, exponent, hparts, hpos⟩ := parts_signed_of_lt hlt
  rw [IsPositive, hparts]
  exact ⟨rfl, hpos (magnitude_one_pos (by omega))⟩

end Binary64

end LineRuns.Number
