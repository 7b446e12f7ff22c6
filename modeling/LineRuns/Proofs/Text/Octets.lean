import LineRuns.Text.Octets
import Mathlib.Algebra.Ring.Nat
import Mathlib.Tactic.Common

/-!
# Octets give no surrogates

What a sequence of octets can still become is a range of numbers, which every further octet makes
narrower. The range of a lead octet has no surrogates in it and lies in the code space, so neither
has the code point that is read in the end.
-/

namespace LineRuns

theorem CodePoint.isSurrogate_eq_false_iff {c : CodePoint} :
    c.isSurrogate = false ↔ c.val < 0xD800 ∨ 0xE000 ≤ c.val := by
  rw [isSurrogate, Bool.and_eq_false_iff, decide_eq_false_iff_not, decide_eq_false_iff_not]
  omega

theorem CodePoint.isSurrogate_ofChar (c : Char) : (ofChar c).isSurrogate = false := by
  have h := c.valid
  simp only [UInt32.isValidChar, Nat.isValidChar] at h
  have hval : (ofChar c).val = c.val.toNat := rfl
  rw [isSurrogate_eq_false_iff, hval]
  omega

namespace Text

namespace Pending

/-- The least number that a sequence can become. -/
def least (p : Pending) : Nat :=
  (p.bits * 0x40 + (p.low - 0x80)) * 0x40 ^ p.owed

/-- The number after the greatest that a sequence can become. -/
def bound (p : Pending) : Nat :=
  (p.bits * 0x40 + (p.high - 0x80) + 1) * 0x40 ^ p.owed

/-- A sequence that only becomes code points without surrogates. -/
structure IsScalar (p : Pending) : Prop where
  low_le : 0x80 ≤ p.low
  high_le : p.high ≤ 0xBF
  bound_le : p.bound ≤ 0x110000
  apart : p.bound ≤ 0xD800 ∨ 0xE000 ≤ p.least

variable {p : Pending} {b : UInt8}

theorem isScalar_ofLead (h : ofLead b = some p) : p.IsScalar := by
  have hlead : ∃ n : Nat, n = b.toNat := ⟨_, rfl⟩
  obtain ⟨n, hn⟩ := hlead
  simp only [ofLead, ← hn] at h
  -- the ranges of next octets keep out what is too short, a surrogate, or too great
  split_ifs at h <;> cases h <;> constructor <;> simp only [least, bound] <;> omega

/-- The range of a sequence narrows to the octet that comes next. -/
theorem IsScalar.next (h : p.IsScalar) (hb : p.low ≤ b.toNat ∧ b.toNat ≤ p.high) {owed : Nat}
    (howed : p.owed = owed + 1) (seen : List UInt8) :
    IsScalar ⟨owed, 0x80, 0xBF, p.bits * 0x40 + b.toNat % 0x40, seen⟩ := by
  obtain ⟨hlow, hhigh, hbound, hapart⟩ := h
  have hleast : p.least ≤ least ⟨owed, 0x80, 0xBF, p.bits * 0x40 + b.toNat % 0x40, seen⟩ := by
    simp only [least, howed, Nat.pow_succ']
    rw [← Nat.mul_assoc]
    exact Nat.mul_le_mul_right _ (by omega)
  have hmost : bound ⟨owed, 0x80, 0xBF, p.bits * 0x40 + b.toNat % 0x40, seen⟩ ≤ p.bound := by
    simp only [bound, howed, Nat.pow_succ']
    rw [← Nat.mul_assoc]
    exact Nat.mul_le_mul_right _ (by omega)
  exact ⟨Nat.le_refl _, Nat.le_refl _, Nat.le_trans hmost hbound,
    hapart.imp (Nat.le_trans hmost) fun h => Nat.le_trans h hleast⟩

/-- The last octet makes a code point that is no surrogate. -/
theorem IsScalar.last (h : p.IsScalar) (hb : p.low ≤ b.toNat ∧ b.toNat ≤ p.high)
    (howed : p.owed = 0) :
    CodePoint.isSurrogate (Fin.ofNat _ (p.bits * 0x40 + b.toNat % 0x40)) = false := by
  obtain ⟨hlow, hhigh, hbound, hapart⟩ := h
  simp only [least, bound, howed, Nat.pow_zero, Nat.mul_one] at hbound hapart
  have hval : (p.bits * 0x40 + b.toNat % 0x40) % 0x110000 = p.bits * 0x40 + b.toNat % 0x40 :=
    Nat.mod_eq_of_lt (by omega)
  rw [CodePoint.isSurrogate_eq_false_iff, Fin.val_ofNat, hval]
  omega

end Pending

/-- A code point in front of a text that was read. -/
theorem forall_mem_of_map_cons {c : CodePoint} {t : Text} {result : Except OctetError Text}
    (h : result.map (c :: ·) = .ok t) (hc : c.isSurrogate = false)
    (hresult : ∀ rest, result = .ok rest → ∀ d ∈ rest, d.isSurrogate = false) :
    ∀ d ∈ t, d.isSurrogate = false := by
  cases result with
  | error e => cases h
  | ok rest =>
    obtain rfl := Except.ok.inj h
    exact List.forall_mem_cons.mpr ⟨hc, hresult rest rfl⟩

theorem not_isSurrogate_of_readOctets {position : Nat} {pending : Option Pending}
    {octets : List UInt8} {t : Text} (hpending : ∀ p ∈ pending, p.IsScalar)
    (h : readOctets position pending octets = .ok t) : ∀ c ∈ t, c.isSurrogate = false := by
  -- a code point comes out of an octet alone or of the last one owed
  fun_induction readOctets position pending octets generalizing t with
  | case1 position =>
    obtain rfl := Except.ok.inj h
    exact fun c hc => absurd hc List.not_mem_nil
  | case2 position p => cases h
  | case3 position b rest hb ih =>
    refine forall_mem_of_map_cons h ?_ fun more hmore => ih (by simp) hmore
    have hval : b.toNat % 0x110000 = b.toNat := Nat.mod_eq_of_lt (by omega)
    rw [CodePoint.isSurrogate_eq_false_iff, Fin.val_ofNat, hval]
    omega
  | case4 position b rest hb hlead => cases h
  | case5 position b rest hb p hlead ih =>
    exact ih (by simpa using Pending.isScalar_ofLead hlead) h
  | case6 position p b rest hb bits howed =>
    rename_i ih
    have hp := hpending p rfl
    exact forall_mem_of_map_cons h (hp.last hb howed) fun more hmore => ih (by simp) hmore
  | case7 position p b rest hb bits owed howed =>
    rename_i ih
    have hp := hpending p rfl
    exact ih (by simpa using hp.next hb howed _) h
  | case8 position p b rest hb => cases h

/-- A text that is read from octets has no surrogates. -/
theorem not_isSurrogate_of_ofOctets {octets : List UInt8} {t : Text} (h : ofOctets octets = .ok t) :
    ∀ c ∈ t, c.isSurrogate = false :=
  not_isSurrogate_of_readOctets (by simp) h

end Text

end LineRuns
