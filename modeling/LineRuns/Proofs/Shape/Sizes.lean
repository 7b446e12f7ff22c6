import LineRuns.Proofs.Number.Doubles
import LineRuns.Shape

/-!
# Sizes that a font can have

The units of a double are its quotient times the units of a pixel, without what is left of a unit.
Only finite doubles below `2 ^ 1008` have units. A font has a scale only if the units are a word of
32 bits, and so for no positive double from `2 ^ 15` on.
-/

namespace LineRuns

namespace Number

/-! ## Doubles as quotients -/

namespace Binary64

variable {x : Binary64} {num : Int} {den : Nat}

/-- Whether a double is a quotient of a magnitude below a bound. -/
def IsWithin (bound : Nat) (x : Binary64) : Prop :=
  ∃ num den, x.toQuotient? = some (num, den) ∧ num.natAbs < bound * den

theorem toQuotient?_of_finite {negative : Bool} {significand : Nat} {exponent : Int}
    (h : x.parts = .finite negative significand exponent) :
    x.toQuotient? =
      let n := significand * 2 ^ exponent.toNat
      some (if negative then -(n : Int) else n, 2 ^ (-exponent).toNat) := by
  simp only [toQuotient?, h, Nat.pow_eq, Int.pow_eq]
  by_cases hexponent : 0 ≤ exponent
  · have hden : (-exponent).toNat = 0 := by omega
    rw [if_pos hexponent, hden, pow_zero]
    cases negative <;> simp
  · have hnum : exponent.toNat = 0 := by omega
    rw [if_neg hexponent, hnum, pow_zero, mul_one]

theorem pos_of_toQuotient? (h : x.toQuotient? = some (num, den)) : 0 < den := by
  cases hparts : x.parts with
  | finite negative significand exponent =>
    rw [toQuotient?_of_finite hparts] at h
    cases h
    exact Nat.two_pow_pos _
  | _ => simp [toQuotient?, hparts] at h

theorem isWithin_iff (h : x.toQuotient? = some (num, den)) {bound : Nat} :
    x.IsWithin bound ↔ num.natAbs < bound * den := by
  simp [IsWithin, h]

theorem not_isWithin (h : x.toQuotient? = none) {bound : Nat} : ¬x.IsWithin bound := by
  simp [IsWithin, h]

/-- A positive double has a positive quotient, unless it is an infinity. -/
theorem num_pos (hx : x.IsPositive) (h : x.toQuotient? = some (num, den)) : 0 < num := by
  unfold IsPositive at hx
  cases hparts : x.parts with
  | finite negative significand exponent =>
    rw [hparts] at hx
    obtain ⟨rfl, hsignificand⟩ := hx
    rw [toQuotient?_of_finite hparts] at h
    cases h
    simp only [Bool.false_eq_true, if_false]
    positivity
  | _ => simp [toQuotient?, hparts] at h

end Binary64

/-! ## Units of doubles -/

namespace Amount

variable {x : Binary64} {num : Int} {den : Nat}

theorem natAbs_signed (negative : Bool) (n : Nat) :
    (if negative then -(n : Int) else n).natAbs = n := by
  split <;> simp

theorem tdiv_signed (negative : Bool) (n k d : Nat) :
    ((if negative then -(n : Int) else n) * k).tdiv d =
      if negative then -((n * k / d : Nat) : Int) else (n * k / d : Nat) := by
  split
  · rw [neg_mul, Int.neg_tdiv, ← Int.natCast_mul, ← Int.ofNat_tdiv]
  · rw [← Int.natCast_mul, ← Int.ofNat_tdiv]

/-- The units of a double are cut off towards zero. -/
theorem units_double (h : x.toQuotient? = some (num, den)) :
    (double x).units =
      if Nat.pow 2 1024 ≤ num.natAbs * unitsPerPixel / den then .error .infinite
      else .ok ((num * unitsPerPixel).tdiv den) := by
  cases hparts : x.parts with
  | finite negative significand exponent =>
    rw [Binary64.toQuotient?_of_finite hparts] at h
    cases h
    have hwhole : (if 0 ≤ exponent then significand * unitsPerPixel * Nat.pow 2 exponent.toNat
        else significand * unitsPerPixel / Nat.pow 2 (-exponent).toNat) =
          significand * 2 ^ exponent.toNat * unitsPerPixel / 2 ^ (-exponent).toNat := by
      rw [Nat.pow_eq, Nat.pow_eq]
      by_cases hexponent : 0 ≤ exponent
      · have hden : (-exponent).toNat = 0 := by omega
        rw [if_pos hexponent, hden, pow_zero, Nat.div_one, Nat.mul_right_comm]
      · have hnum : exponent.toNat = 0 := by omega
        rw [if_neg hexponent, hnum, pow_zero, mul_one]
    simp only [units, hparts, hwhole, natAbs_signed, tdiv_signed]
  | _ => simp [Binary64.toQuotient?, hparts] at h

theorem units_double_of_none (h : x.toQuotient? = none) : ∃ e, (double x).units = .error e := by
  cases hparts : x.parts with
  | finite negative significand exponent =>
    rw [Binary64.toQuotient?_of_finite hparts] at h
    cases h
  | nan => exact ⟨.notANumber, by simp only [units, hparts]⟩
  | infinite negative => exact ⟨.infinite, by simp only [units, hparts]⟩

/-- Units reach a power of two as soon as pixels reach one that is sixteen places lower. -/
theorem pow_le_units_iff (hden : 0 < den) (n k : Nat) :
    Nat.pow 2 (k + 16) ≤ n * unitsPerPixel / den ↔ 2 ^ k * den ≤ n := by
  have hpower : Nat.pow 2 (k + 16) = 2 ^ k * unitsPerPixel := by
    rw [show unitsPerPixel = 2 ^ 16 from rfl, ← pow_add, Nat.pow_eq]
  rw [Nat.le_div_iff_mul_le hden, hpower, Nat.mul_right_comm]
  exact Nat.mul_le_mul_right_iff (by decide)

theorem units_double_eq_ok_iff (h : x.toQuotient? = some (num, den)) {u : Int} :
    (double x).units = .ok u ↔
      num.natAbs < 2 ^ 1008 * den ∧ (num * unitsPerPixel).tdiv den = u := by
  have hden := Binary64.pos_of_toQuotient? h
  -- The exponents are kept as variables, so that nothing works the powers out.
  obtain ⟨k, hk⟩ : ∃ k, 1024 = k + 16 := ⟨1008, rfl⟩
  rw [units_double h, hk, show 1008 = k by omega, ← not_le]
  simp only [pow_le_units_iff hden]
  split
  · next hle => simp only [reduceCtorEq, hle, not_true, false_and]
  · next hlt => simp only [Except.ok.injEq, hlt, not_false_eq_true, true_and]

/-- The doubles that have units are the finite ones below a power of two. -/
theorem exists_units_iff : (∃ u, (double x).units = .ok u) ↔ x.IsWithin (2 ^ 1008) := by
  cases hquotient : x.toQuotient? with
  | none =>
    obtain ⟨e, he⟩ := units_double_of_none hquotient
    simp only [he, reduceCtorEq, exists_false, Binary64.not_isWithin hquotient]
  | some quotient =>
    simp only [units_double_eq_ok_iff hquotient, exists_and_left, exists_eq', and_true,
      Binary64.isWithin_iff hquotient]

end Amount

end Number

namespace Shape

open Number (Amount Binary64)

/-- A font has a scale for the sizes whose units are a word of 32 bits. -/
theorem Font.exists_atSize_iff_units (font : Font) {size : Amount} :
    (∃ scaled, font.atSize size = .ok scaled) ↔
      ∃ u, size.units = .ok u ∧ -2 ^ 31 ≤ u ∧ u < 2 ^ 31 := by
  cases hunits : size.units with
  | error e => simp [atSize, hunits, Except.mapError, bind, Except.bind]
  | ok u =>
    simp only [atSize, hunits, Except.mapError, bind, Except.bind, Int.pow_eq, Except.ok.injEq,
      exists_eq_left']
    split
    · simp only [reduceCtorEq, exists_false, false_iff]
      omega
    · split
      · simp only [reduceCtorEq, exists_false, false_iff]
        omega
      · simp only [Except.ok.injEq, exists_eq', true_iff]
        omega

/-- A font has a scale for those positive doubles that are below `2 ^ 15`. -/
theorem Font.exists_atSize_iff (font : Font) {x : Binary64} (hx : x.parts = .nan ∨ x.IsPositive) :
    (∃ scaled, font.atSize (.double x) = .ok scaled) ↔ x.IsWithin (2 ^ 15) := by
  rw [font.exists_atSize_iff_units]
  cases hquotient : x.toQuotient? with
  | none =>
    obtain ⟨e, he⟩ := Amount.units_double_of_none hquotient
    simp only [he, reduceCtorEq, false_and, exists_false, Binary64.not_isWithin hquotient]
  | some quotient =>
    obtain ⟨num, den⟩ := quotient
    have hden := Binary64.pos_of_toQuotient? hquotient
    have hnum : 0 < num := by
      obtain hnan | hpos := hx
      · simp [Binary64.toQuotient?, hnan] at hquotient
      · exact Binary64.num_pos hpos hquotient
    obtain ⟨n, rfl⟩ := Int.eq_ofNat_of_zero_le hnum.le
    have hword : 2 ^ 31 ≤ n * Number.unitsPerPixel / den ↔ 2 ^ 15 * den ≤ n :=
      Amount.pow_le_units_iff hden n 15
    have hpower : 2 ^ 15 * den ≤ 2 ^ 1008 * den := by
      gcongr <;> decide
    have hunits := Amount.tdiv_signed false n Number.unitsPerPixel den
    simp only [Bool.false_eq_true, if_false] at hunits
    simp only [Amount.units_double_eq_ok_iff hquotient, Binary64.isWithin_iff hquotient, hunits,
      Int.natAbs_natCast]
    generalize n * Number.unitsPerPixel / den = units at hword ⊢
    generalize 2 ^ 1008 * den = most at hpower ⊢
    constructor
    · rintro ⟨u, ⟨-, rfl⟩, -, hu⟩
      omega
    · intro hlt
      exact ⟨units, ⟨hlt.trans_le hpower, rfl⟩, by omega, by omega⟩

end Shape

end LineRuns
