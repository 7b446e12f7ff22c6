import LineRuns.Proofs.Text.Units

/-!
# Where code units can be cut

A lead unit with a trail unit right behind it is read as one astral character, so a cut between
the two changes what is read; a cut anywhere else does not (`decode_append_iff`). A position inside
some units is such a cut if the units on its two sides are a pair (`cutPair_span_iff`). For the
units of a text this means that it is read back unless two of its characters are surrogates that
look like a pair (`decode_units_eq_iff`).
-/

namespace LineRuns

/-- The last of some units and the first of those behind them read as one character. -/
def CodeUnit.CutPair (us vs : List CodeUnit) : Prop :=
  ∃ u ∈ us.getLast?, ∃ v ∈ vs.head?, u.isLead = true ∧ v.isTrail = true

open CodeUnit (CutPair)

theorem CodeUnit.not_isLead_of_isTrail {u : CodeUnit} (h : u.isTrail = true) :
    u.isLead = false := by
  simp only [isTrail, isLead, Bool.and_eq_true, decide_eq_true_eq, Bool.and_eq_false_iff,
    decide_eq_false_iff_not] at h ⊢
  omega

/-! ## Units of a code point -/

namespace CodePoint

variable (c : CodePoint)

/-- The lead unit of an astral code point. -/
theorem toNat_lead (h : 0xFFFF < c.val) : c.lead.toNat = 0xD800 + (c.val - 0x10000) / 0x400 := by
  have hc := c.isLt
  rw [lead, UInt16.toNat_ofNat']
  omega

theorem toNat_trail : c.trail.toNat = 0xDC00 + (c.val - 0x10000) % 0x400 := by
  rw [trail, UInt16.toNat_ofNat']
  omega

theorem isLead_lead (h : 0xFFFF < c.val) : c.lead.isLead = true := by
  have hc := c.isLt
  simp only [CodeUnit.isLead, toNat_lead c h, Bool.and_eq_true, decide_eq_true_eq]
  omega

theorem isTrail_trail : c.trail.isTrail = true := by
  simp only [CodeUnit.isTrail, toNat_trail, Bool.and_eq_true, decide_eq_true_eq]
  omega

/-- The two units of an astral code point read as this code point. -/
theorem pair_lead_trail (h : 0xFFFF < c.val) : c.lead.pair c.trail = c := by
  have hc := c.isLt
  apply Fin.ext
  simp only [CodeUnit.pair, toNat_lead c h, toNat_trail]
  omega

theorem units_of_gt (h : 0xFFFF < c.val) : c.units = [c.lead, c.trail] :=
  if_pos h

theorem units_of_le (h : ¬ 0xFFFF < c.val) : c.units = [UInt16.ofNat c.val] :=
  if_neg h

/-- A code point that is no astral one has itself as its unit. -/
theorem toNat_unit (h : ¬ 0xFFFF < c.val) : (UInt16.ofNat c.val).toNat = c.val := by
  rw [UInt16.toNat_ofNat']
  omega

theorem single_unit (h : ¬ 0xFFFF < c.val) : CodeUnit.single (UInt16.ofNat c.val) = c := by
  apply Fin.ext
  simp only [CodeUnit.single, c.toNat_unit h]

/-- The last unit of a code point is a lead unit only if the code point is a lead surrogate. -/
theorem exists_getLast?_units : ∃ u, c.units.getLast? = some u ∧ u.isLead = c.isLead := by
  by_cases h : 0xFFFF < c.val
  · refine ⟨c.trail, by rw [c.units_of_gt h]; rfl, ?_⟩
    rw [CodeUnit.not_isLead_of_isTrail c.isTrail_trail, eq_comm]
    simp only [isLead, Bool.and_eq_false_iff, decide_eq_false_iff_not]
    omega
  · refine ⟨UInt16.ofNat c.val, by rw [c.units_of_le h]; rfl, ?_⟩
    rw [CodeUnit.isLead, c.toNat_unit h]
    rfl

/-- The first unit of a code point is a trail unit only if the code point is a trail surrogate. -/
theorem exists_head?_units : ∃ u, c.units.head? = some u ∧ u.isTrail = c.isTrail := by
  by_cases h : 0xFFFF < c.val
  · refine ⟨c.lead, by rw [c.units_of_gt h]; rfl, ?_⟩
    have hlead : ¬ c.lead.isTrail = true := by
      intro htrail
      have hboth := CodeUnit.not_isLead_of_isTrail htrail
      rw [c.isLead_lead h] at hboth
      cases hboth
    rw [Bool.not_eq_true] at hlead
    rw [hlead, eq_comm]
    simp only [isTrail, Bool.and_eq_false_iff, decide_eq_false_iff_not]
    omega
  · refine ⟨UInt16.ofNat c.val, by rw [c.units_of_le h]; rfl, ?_⟩
    rw [CodeUnit.isTrail, c.toNat_unit h]
    rfl

end CodePoint

namespace Text

variable {u v : CodeUnit} {us vs : List CodeUnit}

/-! ## Cuts between units -/

theorem decode_pair (h : u.isLead = true ∧ v.isTrail = true) :
    decode (u :: v :: us) = u.pair v :: decode us := by
  rw [decode, if_pos (Bool.and_eq_true_iff.mpr h)]

theorem decode_lone (h : ¬ (u.isLead = true ∧ v.isTrail = true)) :
    decode (u :: v :: us) = u.single :: decode (v :: us) := by
  rw [decode, if_neg fun hand => h (Bool.and_eq_true_iff.mp hand)]

theorem cutPair_append_left (ws : List CodeUnit) (h : CutPair us vs) : CutPair (ws ++ us) vs := by
  obtain ⟨u, hu, hcut⟩ := h
  refine ⟨u, ?_, hcut⟩
  rw [Option.mem_def] at hu ⊢
  rw [List.getLast?_append, hu]
  rfl

/-- Units that are cut, but not within a pair, are read as what their parts are read as. -/
theorem decode_append (h : ¬ CutPair us vs) : decode (us ++ vs) = decode us ++ decode vs := by
  induction us using decode.induct with
  | case1 => rfl
  | case2 u =>
    cases vs with
    | nil => simp [decode]
    | cons v rest =>
      exact decode_lone fun hcut => h ⟨u, rfl, v, rfl, hcut⟩
  | case3 u v rest hp ih =>
    have hrest := ih fun hcut => h (cutPair_append_left [u, v] hcut)
    rw [Bool.and_eq_true] at hp
    rw [List.cons_append, List.cons_append, decode_pair hp, decode_pair hp, hrest, List.cons_append]
  | case4 u v rest hp ih =>
    have hrest := ih fun hcut => h (cutPair_append_left [u] hcut)
    rw [Bool.and_eq_true] at hp
    rw [List.cons_append] at hrest
    rw [List.cons_append, List.cons_append, decode_lone hp, decode_lone hp, hrest, List.cons_append]

/-- A lead unit ends no pair. -/
theorem not_cutPair_of_isLead (h : u.isLead = true) : ¬ CutPair us (u :: vs) := by
  rintro ⟨-, -, w, hw, -, htrail⟩
  obtain rfl : u = w := Option.some.inj hw
  rw [CodeUnit.not_isLead_of_isTrail htrail] at h
  cases h

/-- A trail unit begins none. -/
theorem not_cutPair_of_isTrail (h : v.isTrail = true) : ¬ CutPair (us ++ [v]) vs := by
  rintro ⟨w, hw, -, -, hlead, -⟩
  rw [List.getLast?_concat, Option.mem_some_iff] at hw
  subst hw
  rw [CodeUnit.not_isLead_of_isTrail h] at hlead
  cases hlead

/-- A lead unit at the end of what is read stands alone there. -/
theorem decode_concat_of_isLead (h : u.isLead = true) :
    decode (us ++ [u]) = decode us ++ [u.single] :=
  decode_append (not_cutPair_of_isLead h)

/-- A trail unit at the front of what is read stands alone there. -/
theorem decode_cons_of_isTrail (h : v.isTrail = true) :
    decode (v :: vs) = v.single :: decode vs := by
  have hcut : ¬ CutPair ([] ++ [v]) vs := not_cutPair_of_isTrail h
  exact decode_append hcut

/-- A pair is read as one character among what is read before and after it. -/
theorem decode_append_pair (h : u.isLead = true ∧ v.isTrail = true) :
    decode (us ++ u :: v :: vs) = decode us ++ u.pair v :: decode vs := by
  rw [decode_append (not_cutPair_of_isLead h.1), decode_pair h]

/-- Cut within a pair, units are read as one character more: its two surrogates. -/
theorem length_decode_of_cutPair (h : CutPair us vs) :
    (decode (us ++ vs)).length + 1 = (decode us).length + (decode vs).length := by
  obtain ⟨u, hu, v, hv, hlead, htrail⟩ := h
  obtain ⟨us, rfl⟩ := List.getLast?_eq_some_iff.mp hu
  obtain ⟨vs, rfl⟩ := List.head?_eq_some_iff.mp hv
  rw [List.append_assoc, List.singleton_append, decode_append_pair ⟨hlead, htrail⟩,
    decode_concat_of_isLead hlead, decode_cons_of_isTrail htrail]
  simp only [List.length_append, List.length_cons, List.length_nil]
  omega

/-- A cut changes what is read if and only if it is within a pair. -/
theorem decode_append_iff : decode (us ++ vs) = decode us ++ decode vs ↔ ¬ CutPair us vs := by
  refine ⟨fun h hcut => ?_, decode_append⟩
  have hmore := length_decode_of_cutPair hcut
  rw [h, List.length_append] at hmore
  omega

end Text

/-! ## Cuts inside some units -/

namespace CodeUnit

variable {units : Array CodeUnit} {start middle stop : Nat}

/-- The units between two positions. -/
def span (units : Array CodeUnit) (start stop : Nat) : List CodeUnit :=
  (units.toList.drop start).take (stop - start)

theorem span_append (hfront : start ≤ middle) (hback : middle ≤ stop) :
    span units start middle ++ span units middle stop = span units start stop := by
  have hlength : stop - start = middle - start + (stop - middle) := by omega
  have hdrop : units.toList.drop middle = (units.toList.drop start).drop (middle - start) := by
    rw [List.drop_drop, Nat.add_sub_cancel' hfront]
  rw [span, span, span, hlength, hdrop, ← List.take_add]

theorem lt_of_mem_span {u : CodeUnit} (h : u ∈ span units start stop) : start < stop := by
  refine Nat.lt_of_not_le fun hle => ?_
  rw [span, Nat.sub_eq_zero_of_le hle, List.take_zero] at h
  cases h

theorem length_span (hle : start ≤ stop) (hsize : stop ≤ units.size) :
    (span units start stop).length = stop - start := by
  rw [span, List.length_take, List.length_drop, Array.length_toList]
  omega

theorem head?_span (h : start < stop) : (span units start stop).head? = units[start]? := by
  rw [span, List.head?_take, if_neg (by omega), List.head?_drop, Array.getElem?_toList]

theorem getLast?_span (h : start < stop) (hsize : stop ≤ units.size) :
    (span units start stop).getLast? = units[stop - 1]? := by
  have hlast : start + (stop - start - 1) = stop - 1 := by omega
  rw [List.getLast?_eq_getElem?, length_span (Nat.le_of_lt h) hsize, span,
    List.getElem?_take_of_lt (by omega), List.getElem?_drop, Array.getElem?_toList, hlast]

/-- A position between two others is within a pair: right behind a lead unit and right in front of
a trail unit. -/
def PartsPair (units : Array CodeUnit) (start middle stop : Nat) : Prop :=
  start < middle ∧ middle < stop ∧
    ∃ u v, units[middle - 1]? = some u ∧ units[middle]? = some v ∧
      u.isLead = true ∧ v.isTrail = true

/-- Two spans cut a pair if and only if they meet within one. -/
theorem cutPair_span_iff (hback : middle ≤ stop) (hsize : stop ≤ units.size) :
    CutPair (span units start middle) (span units middle stop) ↔
      PartsPair units start middle stop := by
  constructor
  · rintro ⟨u, hu, v, hv, hpair⟩
    have hlt := lt_of_mem_span (List.mem_of_mem_getLast? hu)
    have hlt' := lt_of_mem_span (List.mem_of_mem_head? hv)
    rw [Option.mem_def, getLast?_span hlt (Nat.le_trans hback hsize)] at hu
    rw [Option.mem_def, head?_span hlt'] at hv
    exact ⟨hlt, hlt', u, v, hu, hv, hpair⟩
  · rintro ⟨hlt, hlt', u, v, hu, hv, hpair⟩
    refine ⟨u, ?_, v, ?_, hpair⟩
    · rwa [Option.mem_def, getLast?_span hlt (Nat.le_trans hback hsize)]
    · rwa [Option.mem_def, head?_span hlt']

end CodeUnit

namespace Text

variable {u v : CodeUnit}

/-- Where a text read from a span is cut, its units are not cut within a pair. -/
theorem not_isLead_isTrail_of_ofUnits {units : Array CodeUnit} {start stop k : Nat} {a b : Text}
    (h : stop ≤ units.size) (hab : ofUnits units start (some stop) = a ++ b) (ha : a ≠ [])
    (hk : start + a.width = k + 1) (hlt : k + 1 < stop) (hu : units[k]? = some u)
    (hv : units[k + 1]? = some v) : ¬ (u.isLead = true ∧ v.isTrail = true) := by
  have hpos := width_pos_iff.mpr ha
  obtain ⟨-, hfront, hback⟩ := ofUnits_split (by omega) h hab
  rw [hk, ofUnits_eq_decode units start (k + 1) (by omega)] at hfront
  rw [hk, ofUnits_eq_decode units (k + 1) stop h] at hback
  rw [ofUnits_eq_decode units start stop h] at hab
  -- both parts together read as the whole does
  have hparts : ¬ CodeUnit.PartsPair units start (k + 1) stop := by
    rw [← CodeUnit.cutPair_span_iff (Nat.le_of_lt hlt) h, ← decode_append_iff,
      CodeUnit.span_append (by omega) (Nat.le_of_lt hlt)]
    rw [CodeUnit.span, CodeUnit.span, CodeUnit.span, hab, hfront, hback]
  intro hpair
  exact hparts ⟨by omega, hlt, u, v, hu, hv, hpair⟩

/-! ## Units of a text -/

theorem toList_units_append (s t : Text) :
    (s ++ t).units.toList = s.units.toList ++ t.units.toList := by
  simp [units]

theorem length_toList_units (t : Text) : t.units.toList.length = t.width := by
  rw [Array.length_toList, size_units]

/-- The units of a character stand where those before it end. -/
theorem getElem?_units {before rest : Text} {c : CodePoint} {i : Nat} (hi : i < c.units.length) :
    (units (before ++ c :: rest))[before.width + i]? = c.units[i]? := by
  have hunits : (units (c :: rest)).toList = c.units ++ rest.units.toList := by simp [units]
  rw [← Array.getElem?_toList, toList_units_append, hunits, ← length_toList_units before,
    List.getElem?_append_right (Nat.le_add_right _ _), Nat.add_sub_cancel_left,
    List.getElem?_append_left hi]

/-- Between two parts of a text, a pair is cut only if two surrogates meet that look like one. -/
theorem cutPair_units_iff {s t : Text} :
    CutPair s.units.toList t.units.toList ↔
      ∃ c ∈ s.getLast?, ∃ d ∈ t.head?, c.isLead = true ∧ d.isTrail = true := by
  obtain rfl | ⟨s, c, rfl⟩ := List.eq_nil_or_concat' s
  · simp [CutPair, units]
  cases t with
  | nil => simp [CutPair, units]
  | cons d t =>
    obtain ⟨u, hu, hlead⟩ := c.exists_getLast?_units
    obtain ⟨v, hv, htrail⟩ := d.exists_head?_units
    have hlast : (units (s ++ [c])).toList.getLast? = some u := by
      simp [units, List.getLast?_append, hu]
    have hfirst : (units (d :: t)).toList.head? = some v := by
      simp [units, List.head?_append, hv]
    simp [CutPair, hlast, hfirst, hlead, htrail]

theorem decode_units_singleton (c : CodePoint) : decode (units [c]).toList = [c] := by
  have hunits : (units [c]).toList = c.units := by simp [units]
  rw [hunits]
  by_cases h : 0xFFFF < c.val
  · rw [c.units_of_gt h, decode_pair ⟨c.isLead_lead h, c.isTrail_trail⟩, c.pair_lead_trail h]
    rfl
  · rw [c.units_of_le h, decode, c.single_unit h]

/-- Two surrogates stand side by side in a text like the two units of a pair. -/
def HasPair (t : Text) : Prop :=
  ∃ before c d rest, t = before ++ c :: d :: rest ∧ c.isLead = true ∧ d.isTrail = true

/-- Read back, a text has no more characters than before. -/
theorem length_decode_units_le (t : Text) : (decode (units t).toList).length ≤ t.length := by
  induction t with
  | nil => exact Nat.le_refl _
  | cons c t ih =>
    have hsum : (decode ((units [c]).toList ++ (units t).toList)).length ≤
        (decode (units [c]).toList).length + (decode (units t).toList).length := by
      by_cases hcut : CutPair (units [c]).toList (units t).toList
      · have hmore := length_decode_of_cutPair hcut
        omega
      · rw [decode_append hcut]
        exact Nat.le_of_eq List.length_append
    rw [← toList_units_append, List.singleton_append, decode_units_singleton,
      List.length_singleton] at hsum
    rw [List.length_cons]
    omega

/-- Read back, a text has fewer characters than before if two surrogates in it look like a pair. -/
theorem length_decode_units_lt {t : Text} (h : HasPair t) :
    (decode (units t).toList).length < t.length := by
  obtain ⟨before, c, d, rest, rfl, hc, hd⟩ := h
  have hcut : CutPair (units (before ++ [c])).toList (units (d :: rest)).toList :=
    cutPair_units_iff.mpr ⟨c, by simp, d, by simp, hc, hd⟩
  have hmore := length_decode_of_cutPair hcut
  have hfront := length_decode_units_le (before ++ [c])
  have hback := length_decode_units_le (d :: rest)
  rw [← toList_units_append, List.append_assoc, List.singleton_append] at hmore
  simp only [List.length_append, List.length_cons, List.length_nil] at hfront hback ⊢
  omega

/-- A text is read back from its units if and only if no two surrogates in it look like a pair. -/
theorem decode_units_eq_iff {t : Text} : decode t.units.toList = t ↔ ¬ HasPair t := by
  constructor
  · intro h hpair
    have hless := length_decode_units_lt hpair
    rw [h] at hless
    exact Nat.lt_irrefl _ hless
  · intro h
    induction t with
    | nil => rfl
    | cons c t ih =>
      have hrest : ¬ HasPair t := by
        rintro ⟨before, a, d, rest, rfl, hpair⟩
        exact h ⟨c :: before, a, d, rest, rfl, hpair⟩
      have hcut : ¬ CutPair (units [c]).toList (units t).toList := by
        rw [cutPair_units_iff]
        rintro ⟨a, ha, d, hd, hpair⟩
        obtain rfl : c = a := Option.some.inj ha
        obtain ⟨rest, rfl⟩ := List.head?_eq_some_iff.mp hd
        exact h ⟨[], c, d, rest, rfl, hpair⟩
      rw [← List.singleton_append, toList_units_append, decode_append hcut, ih hrest,
        decode_units_singleton]

/-- A span of units in the middle of a text is read as the characters that they are the units of. -/
theorem ofUnits_middle (before t rest : Text) :
    ofUnits (units (before ++ t ++ rest)) before.width
      (some ((before.width + t.width : Nat) : Int)) = decode t.units.toList := by
  have hle : before.width + t.width ≤ (units (before ++ t ++ rest)).size := by
    rw [size_units, width_append, width_append]
    omega
  rw [ofUnits_eq_decode _ _ _ hle, Nat.add_sub_cancel_left, List.append_assoc, toList_units_append,
    toList_units_append, ← length_toList_units before, ← length_toList_units t, List.drop_left,
    List.take_left]

end Text

end LineRuns
