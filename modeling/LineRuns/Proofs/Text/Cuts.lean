import LineRuns.Proofs.Text.RoundTrip

/-!
# Walks in two parts

A walk between two positions can be taken in two parts that meet in between. The parts meet what
the whole walk meets unless their meeting place is within a pair: however many lead and trail units
stand in front of it, they do not move where later characters begin. Within a pair, each part meets
one of its units, and all else stays as it is.
-/

namespace LineRuns.Cursor

open CodeUnit (span PartsPair)

variable {units : Array CodeUnit} {start middle stop : Nat}

/-! ## Positions in two parts -/

theorem positions_append (start : Int) (s t : Text) :
    positions start (s ++ t) = positions start s ++ positions (start + s.width) t := by
  induction s generalizing start with
  | nil => simp [positions]
  | cons c s ih =>
    rw [List.cons_append, positions, ih, positions, Text.width_cons, List.cons_append,
      Int.natCast_add, Int.add_assoc]

theorem walk_eq_span (hle : start ≤ stop) (hsize : stop ≤ units.size) :
    walk units start stop = .ok (positions start (Text.decode (span units start stop))) := by
  rw [walk_eq hle hsize, Text.ofUnits_eq_decode units start stop hsize, span]

/-- Parts that do not meet within a pair meet together what the whole meets. -/
theorem positions_span_append (hfront : start ≤ middle) (hback : middle ≤ stop)
    (hsize : stop ≤ units.size) (h : ¬ PartsPair units start middle stop) :
    positions start (Text.decode (span units start middle)) ++
        positions middle (Text.decode (span units middle stop)) =
      positions start (Text.decode (span units start stop)) := by
  have hcut := mt (CodeUnit.cutPair_span_iff hback hsize).mp h
  have hwidth : (start : Int) + (Text.decode (span units start middle)).width = middle := by
    rw [Text.width_decode, CodeUnit.length_span hfront (hback.trans hsize)]
    omega
  rw [← CodeUnit.span_append hfront hback, Text.decode_append hcut, positions_append, hwidth]

/-- What the two parts of a walk and the whole of it meet if the parts meet within a pair: the first
part ends with the lead unit and the second begins with the trail unit, where the whole has the
pair. -/
def MeetInPair (middle : Int) (front back whole : List (Int × CodePoint)) : Prop :=
  ∃ (before after : List (Int × CodePoint)) (u v : CodeUnit),
    u.isLead = true ∧ v.isTrail = true ∧ front = before ++ [(middle - 1, u.single)] ∧
      back = (middle, v.single) :: after ∧ whole = before ++ (middle - 1, u.pair v) :: after

theorem MeetInPair.length_eq {middle : Int} {front back whole : List (Int × CodePoint)}
    (h : MeetInPair middle front back whole) :
    front.length + back.length = whole.length + 1 := by
  obtain ⟨before, after, u, v, -, -, rfl, rfl, rfl⟩ := h
  simp only [List.length_append, List.length_cons, List.length_nil]
  omega

theorem meetInPair_positions_span (hfront : start ≤ middle) (hback : middle ≤ stop)
    (hsize : stop ≤ units.size) (h : PartsPair units start middle stop) :
    MeetInPair middle (positions start (Text.decode (span units start middle)))
      (positions middle (Text.decode (span units middle stop)))
      (positions start (Text.decode (span units start stop))) := by
  have hlt := h.1
  have hlength := CodeUnit.length_span hfront (hback.trans hsize)
  obtain ⟨u, hu, v, hv, hpair⟩ := (CodeUnit.cutPair_span_iff hback hsize).mpr h
  obtain ⟨us, hus⟩ := List.getLast?_eq_some_iff.mp hu
  obtain ⟨vs, hvs⟩ := List.head?_eq_some_iff.mp hv
  rw [hus, List.length_append, List.length_singleton] at hlength
  -- the lead unit stands alone behind all that is read in front of it
  have hwidth : (start : Int) + (Text.decode us).width = middle - 1 := by
    rw [Text.width_decode]
    omega
  refine ⟨positions start (Text.decode us), positions (middle + 1) (Text.decode vs), u, v,
    hpair.1, hpair.2, ?_, ?_, ?_⟩
  · rw [hus, Text.decode_concat_of_isLead hpair.1, positions_append, hwidth]
    rfl
  · rw [hvs, Text.decode_cons_of_isTrail hpair.2, positions, CodeUnit.width_single]
    rfl
  · have hnext : (middle : Int) - 1 + (2 : Nat) = middle + 1 := by omega
    rw [← CodeUnit.span_append hfront hback, hus, hvs, List.append_assoc, List.singleton_append,
      Text.decode_append_pair hpair, positions_append, hwidth, positions, CodeUnit.width_pair,
      hnext]

/-! ## Walks in two parts -/

/-- Taken in two parts, a walk inside some units meets the same code points at the same positions if
and only if the parts do not meet within a pair. If they do, they meet exactly one code point more:
the lead unit and the trail unit instead of the pair. -/
theorem walk_parts (units : Array CodeUnit) (start middle stop : Nat) (hfront : start ≤ middle)
    (hback : middle ≤ stop) (hsize : stop ≤ units.size) :
    ∃ front back whole, walk units start middle = .ok front ∧ walk units middle stop = .ok back ∧
      walk units start stop = .ok whole ∧
      (front ++ back = whole ↔ ¬ PartsPair units start middle stop) ∧
      (PartsPair units start middle stop →
        front.length + back.length = whole.length + 1 ∧
        MeetInPair middle front back whole) := by
  refine ⟨_, _, _, walk_eq_span hfront (hback.trans hsize), walk_eq_span hback hsize,
    walk_eq_span (hfront.trans hback) hsize, ⟨?_, ?_⟩, ?_⟩
  · intro heq h
    have hmore := (meetInPair_positions_span hfront hback hsize h).length_eq
    rw [← heq, List.length_append] at hmore
    omega
  · exact positions_span_append hfront hback hsize
  · intro h
    have hmeet := meetInPair_positions_span hfront hback hsize h
    exact ⟨hmeet.length_eq, hmeet⟩

/-- In a chain of leads and trails, with two pairs in it and one lead too many: between the two
pairs nothing is parted, and within the second one its units are met one by one. -/
theorem walk_parts_chain :
    (∃ front back whole,
      walk #[0xD800, 0xD800, 0xDC00, 0xD801, 0xDC01, 0x61] 0 3 = .ok front ∧
      walk #[0xD800, 0xD800, 0xDC00, 0xD801, 0xDC01, 0x61] 3 6 = .ok back ∧
      walk #[0xD800, 0xD800, 0xDC00, 0xD801, 0xDC01, 0x61] 0 6 = .ok whole ∧
      front ++ back = whole) ∧
    ∃ front back whole,
      walk #[0xD800, 0xD800, 0xDC00, 0xD801, 0xDC01, 0x61] 1 4 = .ok front ∧
      walk #[0xD800, 0xD800, 0xDC00, 0xD801, 0xDC01, 0x61] 4 6 = .ok back ∧
      walk #[0xD800, 0xD800, 0xDC00, 0xD801, 0xDC01, 0x61] 1 6 = .ok whole ∧
      front.length + back.length = whole.length + 1 ∧ MeetInPair 4 front back whole := by
  constructor
  · obtain ⟨front, back, whole, hfront, hback, hwhole, hsame, -⟩ :=
      walk_parts #[0xD800, 0xD800, 0xDC00, 0xD801, 0xDC01, 0x61] 0 3 6 (by decide) (by decide)
        (by decide)
    refine ⟨front, back, whole, hfront, hback, hwhole, hsame.mpr ?_⟩
    rintro ⟨-, -, u, v, hu, -, hlead, -⟩
    obtain rfl : 0xDC00 = u := Option.some.inj hu
    cases hlead
  · obtain ⟨front, back, whole, hfront, hback, hwhole, -, hmeet⟩ :=
      walk_parts #[0xD800, 0xD800, 0xDC00, 0xD801, 0xDC01, 0x61] 1 4 6 (by decide) (by decide)
        (by decide)
    exact ⟨front, back, whole, hfront, hback, hwhole,
      hmeet ⟨by decide, by decide, 0xD801, 0xDC01, rfl, rfl, by decide, by decide⟩⟩

end LineRuns.Cursor
