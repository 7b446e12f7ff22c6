import LineRuns.Proofs.Text.Octets

/-!
# Octets read back

Every text without surrogates is read back from its octets, and nothing else is read: octets that
are read are those of the text that comes out. Both ways rest on one fact about a sequence under
way. The numbers that it can still become all have the octets seen so far in front, and behind them
as many octets of six bits each as are owed.
-/

namespace LineRuns.Text

/-- The last octets of a number, each with six of its bits. -/
def tailOctets : Nat → Nat → List UInt8
  | 0, _ => []
  | count + 1, n => UInt8.ofNat (0x80 + n / 0x40 ^ count % 0x40) :: tailOctets count n

theorem tailOctets_succ {b : UInt8} {count n : Nat}
    (hb : b.toNat = 0x80 + n / 0x40 ^ count % 0x40) :
    tailOctets (count + 1) n = b :: tailOctets count n := by
  rw [tailOctets, ← hb, UInt8.ofNat_toNat]

theorem exists_tailOctets_succ (count n : Nat) :
    ∃ b : UInt8, b.toNat = 0x80 + n / 0x40 ^ count % 0x40 ∧
      tailOctets (count + 1) n = b :: tailOctets count n := by
  refine ⟨UInt8.ofNat (0x80 + n / 0x40 ^ count % 0x40), ?_, rfl⟩
  rw [UInt8.toNat_ofNat']
  omega

theorem length_tailOctets (count n : Nat) : (tailOctets count n).length = count := by
  induction count with
  | zero => rfl
  | succ count ih => rw [tailOctets, List.length_cons, ih]

/-! ## Sequences under way -/

namespace Pending

variable {p : Pending} {b : UInt8} {n : Nat}

/-- A number that a sequence can become. -/
def Reaches (p : Pending) (n : Nat) : Prop :=
  p.least ≤ n ∧ n < p.bound

/-- The bits of such a number are those read so far, and next the six bits of an octet that lies in
the range. -/
theorem reaches_iff : p.Reaches n ↔
    p.bits * 0x40 + (p.low - 0x80) ≤ n / 0x40 ^ p.owed ∧
      n / 0x40 ^ p.owed ≤ p.bits * 0x40 + (p.high - 0x80) := by
  have hpos : 0 < 0x40 ^ p.owed := Nat.pow_pos (by decide)
  rw [Reaches, least, bound, Nat.le_div_iff_mul_le hpos, ← Nat.div_lt_iff_lt_mul hpos,
    Nat.lt_succ_iff]

/-- The octet that comes next in such a number, and the bits that it leaves. -/
theorem Reaches.octet (h : p.Reaches n) (hp : p.IsScalar) (hrange : p.low ≤ p.high) :
    (p.low ≤ 0x80 + n / 0x40 ^ p.owed % 0x40 ∧ 0x80 + n / 0x40 ^ p.owed % 0x40 ≤ p.high) ∧
      p.bits * 0x40 + n / 0x40 ^ p.owed % 0x40 = n / 0x40 ^ p.owed := by
  obtain ⟨hleast, hmost⟩ := reaches_iff.mp h
  have hlow := hp.low_le
  have hhigh := hp.high_le
  omega

theorem low_le_high_of_ofLead (h : ofLead b = some p) : 0x80 ≤ b.toNat ∧ p.low ≤ p.high := by
  simp only [ofLead] at h
  split_ifs at h <;> cases h <;> simp only <;> omega

/-- Numbers that a sequence becomes after an octet have the bits of this octet. -/
theorem Reaches.of_next {owed : Nat} {seen : List UInt8}
    (h : Reaches ⟨owed, 0x80, 0xBF, p.bits * 0x40 + b.toNat % 0x40, seen⟩ n) (hp : p.IsScalar)
    (hb : p.low ≤ b.toNat ∧ b.toNat ≤ p.high) (howed : p.owed = owed + 1) :
    p.Reaches n ∧ n / 0x40 ^ p.owed % 0x40 = b.toNat % 0x40 := by
  obtain ⟨hleast, hmost⟩ := reaches_iff.mp h
  have hlow := hp.low_le
  have hhigh := hp.high_le
  have hfront : n / 0x40 ^ p.owed = n / 0x40 ^ owed / 0x40 := by
    rw [howed, Nat.pow_succ, Nat.div_div_eq_div_mul]
  rw [reaches_iff, hfront]
  simp only at hleast hmost
  omega

end Pending

/-! ## Writing -/

section Writing

variable {p : Pending} {b : UInt8} {c : CodePoint}

theorem octetsOf_one (h : c.val < 0x80) : octetsOf c = some [UInt8.ofNat c.val] := by
  rw [octetsOf, if_pos h]

theorem octetsOf_two (hlow : 0x80 ≤ c.val) (hhigh : c.val < 0x800)
    (hb : 0xC0 + c.val / 0x40 = b.toNat) : octetsOf c = some (b :: tailOctets 1 c.val) := by
  rw [octetsOf, if_neg (by omega), if_pos hhigh]
  simp [tailOctets, hb]

theorem octetsOf_three (hlow : 0x800 ≤ c.val) (hhigh : c.val < 0x10000)
    (hs : c.val < 0xD800 ∨ 0xE000 ≤ c.val) (hb : 0xE0 + c.val / 0x1000 = b.toNat) :
    octetsOf c = some (b :: tailOctets 2 c.val) := by
  rw [octetsOf, if_neg (by omega), if_neg (by omega), CodePoint.isSurrogate_eq_false_iff.mpr hs,
    if_neg (by decide), if_pos hhigh]
  simp [tailOctets, hb]

theorem octetsOf_four (hlow : 0x10000 ≤ c.val) (hb : 0xF0 + c.val / 0x40000 = b.toNat) :
    octetsOf c = some (b :: tailOctets 3 c.val) := by
  rw [octetsOf, if_neg (by omega), if_neg (by omega),
    CodePoint.isSurrogate_eq_false_iff.mpr (by omega), if_neg (by decide), if_neg (by omega)]
  simp [tailOctets, hb]

/-- A code point that a lead octet opens is written with this octet in front. -/
theorem octetsOf_of_ofLead (h : Pending.ofLead b = some p) (hc : p.Reaches c.val) :
    octetsOf c = some (b :: tailOctets (p.owed + 1) c.val) := by
  obtain ⟨hleast, hmost⟩ := Pending.reaches_iff.mp hc
  simp only [Pending.ofLead] at h
  split_ifs at h <;> cases h <;> simp only at hleast hmost
  · exact octetsOf_two (by omega) (by omega) (by omega)
  · exact octetsOf_three (by omega) (by omega) (by omega) (by omega)
  · exact octetsOf_three (by omega) (by omega) (by omega) (by omega)
  · exact octetsOf_three (by omega) (by omega) (by omega) (by omega)
  · exact octetsOf_four (by omega) (by omega)
  · exact octetsOf_four (by omega) (by omega)
  · exact octetsOf_four (by omega) (by omega)

/-- Every code point from U+0080 on that is no surrogate is opened by a lead octet. -/
theorem exists_ofLead (hlow : 0x80 ≤ c.val) (hs : c.val < 0xD800 ∨ 0xE000 ≤ c.val) :
    ∃ b p, Pending.ofLead b = some p ∧ p.Reaches c.val := by
  have hlead : ∃ b : UInt8, (c.val < 0x800 → b.toNat = 0xC0 + c.val / 0x40) ∧
      (0x800 ≤ c.val → c.val < 0x10000 → b.toNat = 0xE0 + c.val / 0x1000) ∧
      (0x10000 ≤ c.val → b.toNat = 0xF0 + c.val / 0x40000) := by
    refine ⟨UInt8.ofNat (if c.val < 0x800 then 0xC0 + c.val / 0x40
      else if c.val < 0x10000 then 0xE0 + c.val / 0x1000 else 0xF0 + c.val / 0x40000), ?_⟩
    rw [UInt8.toNat_ofNat']
    split_ifs <;> omega
  obtain ⟨b, htwo, hthree, hfour⟩ := hlead
  refine ⟨b, ?_⟩
  simp only [Pending.ofLead, Pending.reaches_iff]
  split_ifs
  case neg => omega
  all_goals exact ⟨_, rfl, by simp only; omega, by simp only; omega⟩

theorem octetsOf_isSome_iff : (octetsOf c).isSome = true ↔ c.isSurrogate = false := by
  simp only [octetsOf, CodePoint.isSurrogate_eq_false_iff]
  split_ifs <;> simp_all [CodePoint.isSurrogate] <;> omega

end Writing

/-! ## Reading what is written -/

section Reading

variable {c : CodePoint} {t : Text} {octets : List UInt8}

/-- A sequence under way is completed by the last octets of a number that it can become. -/
theorem readOctets_tailOctets {p : Pending} (hp : p.IsScalar) (hrange : p.low ≤ p.high)
    (hc : p.Reaches c.val) (position : Nat) (rest : List UInt8) :
    readOctets position (some p) (tailOctets (p.owed + 1) c.val ++ rest) =
      (readOctets (position + (p.owed + 1)) none rest).map (c :: ·) := by
  obtain ⟨owed, low, high, bits, seen⟩ := p
  -- each octet leaves a sequence that owes one less
  induction owed generalizing low high bits seen position with
  | zero =>
    obtain ⟨b, hb, htail⟩ := exists_tailOctets_succ 0 c.val
    obtain ⟨hmem, hbits⟩ := hc.octet hp hrange
    simp only [Nat.pow_zero, Nat.div_one] at hb hmem hbits
    have hin : low ≤ b.toNat ∧ b.toNat ≤ high := by omega
    have hlast : bits * 0x40 + b.toNat % 0x40 = c.val := by omega
    rw [htail, List.cons_append, readOctets, if_pos hin]
    simp only [hlast, Fin.ofNat_val_eq_self]
    rfl
  | succ owed ih =>
    obtain ⟨b, hb, htail⟩ := exists_tailOctets_succ (owed + 1) c.val
    obtain ⟨hmem, hbits⟩ := hc.octet hp hrange
    simp only at hmem hbits
    have hin : low ≤ b.toNat ∧ b.toNat ≤ high := by omega
    have hnext := hp.next hin rfl (b :: seen)
    have hreaches : Pending.Reaches ⟨owed, 0x80, 0xBF, bits * 0x40 + b.toNat % 0x40, b :: seen⟩
        c.val := by
      have hfront : c.val / 0x40 ^ (owed + 1) = c.val / 0x40 ^ owed / 0x40 := by
        rw [Nat.pow_succ, Nat.div_div_eq_div_mul]
      rw [Pending.reaches_iff]
      simp only
      omega
    rw [htail, List.cons_append, readOctets, if_pos hin]
    have hmore := ih (position + 1) _ _ _ _ hnext (show 0x80 ≤ 0xBF by decide) hreaches
    have hposition : position + 1 + (owed + 1) = position + (owed + 1 + 1) := by omega
    rw [hposition] at hmore
    exact hmore

/-- A code point is read from its octets, whatever comes behind them. -/
theorem readOctets_octetsOf (h : octetsOf c = some octets) (position : Nat) (rest : List UInt8) :
    readOctets position none (octets ++ rest) =
      (readOctets (position + octets.length) none rest).map (c :: ·) := by
  by_cases hlow : c.val < 0x80
  · rw [octetsOf_one hlow] at h
    obtain rfl := Option.some.inj h
    have hval : (UInt8.ofNat c.val).toNat = c.val := by
      rw [UInt8.toNat_ofNat']
      omega
    rw [List.singleton_append, readOctets, if_pos (by omega), hval, Fin.ofNat_val_eq_self]
    rfl
  · have hs : c.isSurrogate = false := by
      rw [← octetsOf_isSome_iff, h]
      rfl
    obtain ⟨b, p, hlead, hc⟩ :=
      exists_ofLead (by omega) (CodePoint.isSurrogate_eq_false_iff.mp hs)
    obtain rfl := Option.some.inj ((octetsOf_of_ofLead hlead hc).symm.trans h)
    obtain ⟨hb, hrange⟩ := Pending.low_le_high_of_ofLead hlead
    have hread :=
      readOctets_tailOctets (Pending.isScalar_ofLead hlead) hrange hc (position + 1) rest
    rw [List.cons_append, readOctets, if_neg (by omega), hlead]
    simp only [hread, List.length_cons, length_tailOctets]
    congr 2
    omega

theorem octets?_nil : octets? [] = some [] := rfl

theorem octets?_cons_eq_some_iff : octets? (c :: t) = some octets ↔
    ∃ first rest, octetsOf c = some first ∧ octets? t = some rest ∧ octets = first ++ rest := by
  simp only [octets?, List.mapM_cons]
  cases octetsOf c <;> cases t.mapM octetsOf <;> simp [eq_comm]

/-- A text is read back from its octets. -/
theorem readOctets_octets? (h : octets? t = some octets) (position : Nat) :
    readOctets position none octets = .ok t := by
  induction t generalizing octets position with
  | nil =>
    obtain rfl := Option.some.inj h
    rfl
  | cons c t ih =>
    obtain ⟨first, rest, hfirst, hrest, rfl⟩ := octets?_cons_eq_some_iff.mp h
    rw [readOctets_octetsOf hfirst, ih hrest]
    rfl

theorem octets?_isSome_iff : (octets? t).isSome = true ↔ ∀ c ∈ t, c.isSurrogate = false := by
  induction t with
  | nil => simp [octets?_nil]
  | cons c t ih =>
    rw [List.forall_mem_cons, ← octetsOf_isSome_iff, ← ih]
    simp only [octets?, List.mapM_cons]
    cases octetsOf c <;> cases t.mapM octetsOf <;> simp

end Reading

/-! ## Writing what is read -/

section Written

variable {p : Pending} {b : UInt8} {t : Text} {octets : List UInt8}

namespace Pending

/-- The numbers that a sequence can become have the octets seen so far in front. -/
def Fronts (p : Pending) : Prop :=
  ∀ c : CodePoint, p.Reaches c.val →
    octetsOf c = some (p.seen.reverse ++ tailOctets (p.owed + 1) c.val)

theorem seen_of_ofLead (h : ofLead b = some p) : p.seen = [b] := by
  simp only [ofLead] at h
  split_ifs at h <;> cases h <;> rfl

theorem fronts_ofLead (h : ofLead b = some p) : p.Fronts := by
  intro c hc
  rw [octetsOf_of_ofLead h hc, seen_of_ofLead h]
  rfl

/-- An octet that goes on is the next one in front of what is still owed. -/
theorem Fronts.next (h : p.Fronts) (hp : p.IsScalar) (hb : p.low ≤ b.toNat ∧ b.toNat ≤ p.high)
    {owed : Nat} (howed : p.owed = owed + 1) :
    Fronts ⟨owed, 0x80, 0xBF, p.bits * 0x40 + b.toNat % 0x40, b :: p.seen⟩ := by
  intro c hc
  obtain ⟨hbefore, hbits⟩ := hc.of_next hp hb howed
  have hoctet : b.toNat = 0x80 + c.val / 0x40 ^ p.owed % 0x40 := by
    have hlow := hp.low_le
    have hhigh := hp.high_le
    omega
  rw [h c hbefore, tailOctets_succ hoctet, howed, List.reverse_cons, List.append_assoc]
  rfl

/-- The last octet that is owed ends the octets of the code point. -/
theorem Fronts.last (h : p.Fronts) (hp : p.IsScalar) (hb : p.low ≤ b.toNat ∧ b.toNat ≤ p.high)
    (howed : p.owed = 0) :
    octetsOf (Fin.ofNat _ (p.bits * 0x40 + b.toNat % 0x40)) = some (p.seen.reverse ++ [b]) := by
  have hlow := hp.low_le
  have hhigh := hp.high_le
  have hbound := hp.bound_le
  simp only [bound, howed, Nat.pow_zero, Nat.mul_one] at hbound
  have hval : (p.bits * 0x40 + b.toNat % 0x40) % 0x110000 = p.bits * 0x40 + b.toNat % 0x40 :=
    Nat.mod_eq_of_lt (by omega)
  have hreaches : p.Reaches (p.bits * 0x40 + b.toNat % 0x40) := by
    rw [reaches_iff, howed, Nat.pow_zero, Nat.div_one]
    omega
  have hoctet : b.toNat = 0x80 + (p.bits * 0x40 + b.toNat % 0x40) / 0x40 ^ 0 % 0x40 := by
    rw [Nat.pow_zero, Nat.div_one]
    omega
  rw [h _ (by rwa [Fin.val_ofNat, hval]), howed, Fin.val_ofNat, hval, tailOctets_succ hoctet]
  rfl

end Pending

theorem octets?_of_map_cons {c : CodePoint} {first rest : List UInt8}
    {result : Except OctetError Text}
    (h : result.map (c :: ·) = .ok t) (hc : octetsOf c = some first)
    (hresult : ∀ more, result = .ok more → octets? more = some rest) :
    octets? t = some (first ++ rest) := by
  cases result with
  | error e => cases h
  | ok more =>
    obtain rfl := Except.ok.inj h
    exact octets?_cons_eq_some_iff.mpr ⟨first, rest, hc, hresult more rfl, rfl⟩

/-- The octets that are read, with those of the sequence under way in front, are those of the text
that comes out. -/
theorem octets?_of_readOctets {position : Nat} {pending : Option Pending}
    (hpending : ∀ p ∈ pending, p.IsScalar ∧ p.Fronts)
    (h : readOctets position pending octets = .ok t) :
    octets? t = some ((pending.elim [] fun p => p.seen.reverse) ++ octets) := by
  -- a code point comes out of an octet alone or of the last one owed
  fun_induction readOctets position pending octets generalizing t with
  | case1 position =>
    obtain rfl := Except.ok.inj h
    rfl
  | case2 position p => cases h
  | case3 position b rest hb ih =>
    have hval : b.toNat % 0x110000 = b.toNat := Nat.mod_eq_of_lt (by omega)
    have hone : octetsOf (Fin.ofNat _ b.toNat) = some [b] := by
      rw [octetsOf_one (by rwa [Fin.val_ofNat, hval]), Fin.val_ofNat, hval, UInt8.ofNat_toNat]
    have hmore := octets?_of_map_cons h hone fun more hmore => ih (by simp) hmore
    exact hmore
  | case4 position b rest hb hlead => cases h
  | case5 position b rest hb p hlead ih =>
    have hmore := ih (by simpa using
      ⟨Pending.isScalar_ofLead hlead, Pending.fronts_ofLead hlead⟩) h
    simpa [Pending.seen_of_ofLead hlead] using hmore
  | case6 position p b rest hb bits howed =>
    rename_i ih
    obtain ⟨hp, hfronts⟩ := hpending p rfl
    have hmore := octets?_of_map_cons h (hfronts.last hp hb howed) fun more hmore =>
      ih (by simp) hmore
    simpa using hmore
  | case7 position p b rest hb bits owed howed =>
    rename_i ih
    obtain ⟨hp, hfronts⟩ := hpending p rfl
    have hmore := ih (by simpa using ⟨hp.next hb howed _, hfronts.next hp hb howed⟩) h
    simpa using hmore
  | case8 position p b rest hb => cases h

end Written

/-! ## Both ways -/

/-- Octets are read as a text if and only if they are the octets of this text. -/
theorem ofOctets_eq_ok_iff {octets : List UInt8} {t : Text} :
    ofOctets octets = .ok t ↔ octets? t = some octets := by
  constructor
  · intro h
    exact octets?_of_readOctets (by simp) h
  · intro h
    exact readOctets_octets? h 0

/-- The octets of a scalar value are those that the standard encoder gives it. -/
theorem octetsOf_ofChar (c : Char) :
    octetsOf (CodePoint.ofChar c) = some (String.utf8EncodeChar c) := by
  have hs := CodePoint.isSurrogate_ofChar c
  have hval : (CodePoint.ofChar c).val = c.val.toNat := rfl
  have hlt : c.val.toNat < 0x110000 := (CodePoint.ofChar c).isLt
  have htail (n : Nat) : 0x80 + n % 0x40 = n % 64 + 128 := Nat.add_comm 0x80 (n % 0x40)
  simp only [octetsOf, String.utf8EncodeChar, hs, hval]
  generalize c.val.toNat = n at hlt
  have hone : n < 0x80 ↔ n ≤ 127 := Nat.lt_succ_iff
  have htwo : n < 0x800 ↔ n ≤ 2047 := Nat.lt_succ_iff
  have hthree : n < 0x10000 ↔ n ≤ 65535 := Nat.lt_succ_iff
  simp only [hone, htwo, hthree, htail, Bool.false_eq_true, if_false]
  split_ifs
  · rfl
  · rw [show 0xC0 + n / 0x40 = n / 64 % 32 + 192 by omega]
  · rw [show 0xE0 + n / 0x1000 = n / 4096 % 16 + 224 by omega]
  · rw [show 0xF0 + n / 0x40000 = n / 262144 % 8 + 240 by omega]

/-- The octets of a string are those that it has for the standard encoder. -/
theorem octets?_ofString (s : String) : octets? (ofString s) = some s.toUTF8.data.toList := by
  have hbytes : s.toUTF8.data.toList = s.toList.flatMap String.utf8EncodeChar := by
    rw [String.toUTF8_eq_toByteArray, ← String.utf8Encode_toList, List.utf8Encode,
      List.data_toByteArray]
  rw [hbytes, octets?, ofString]
  induction s.toList with
  | nil => rfl
  | cons c rest ih =>
    rw [List.map_cons, List.flatMap_cons, List.mapM_cons, octetsOf_ofChar]
    cases hrest : (rest.map CodePoint.ofChar).mapM octetsOf with
    | none => simp [hrest] at ih
    | some octets => simpa [hrest] using ih

end LineRuns.Text
