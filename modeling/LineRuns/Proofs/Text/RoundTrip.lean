import LineRuns.Proofs.Text.Units
import LineRuns.Proofs.Text.Pairs
import LineRuns.Proofs.Tiling
import Mathlib.Algebra.Ring.Nat

/-!
# Writing and reading code units

Units that are read as a text are written back as they were, whatever they are: a pair is written
as its two units, and what stood alone is a unit. So texts keep more apart than units do, and it is
only two surrogates side by side that are lost (`decode_units_eq_iff`). Reading in one go and
walking meet the same code points, and the positions of a walk say where the units of each stand.
-/

namespace LineRuns

/-! ## Units written back -/

namespace CodeUnit

variable {u v : CodeUnit}

theorem units_single (u : CodeUnit) : u.single.units = [u] := by
  have hu := u.toNat_lt
  have hle : ¬ 0xFFFF < u.single.val := by
    simp only [single]
    omega
  rw [CodePoint.units_of_le _ hle]
  exact congrArg (fun w => [w]) UInt16.ofNat_toNat

/-- The two units of a pair each carry ten bits of its offset, and nothing else. -/
theorem units_pair (h : u.isLead = true ∧ v.isTrail = true) : (u.pair v).units = [u, v] := by
  obtain ⟨hu, hv⟩ := h
  simp only [isLead, isTrail, Bool.and_eq_true, decide_eq_true_eq] at hu hv
  have hgt : 0xFFFF < (u.pair v).val := by
    simp only [pair]
    omega
  have hlead : (u.pair v).lead = u := by
    apply UInt16.toNat_inj.mp
    rw [CodePoint.toNat_lead _ hgt]
    simp only [pair]
    omega
  have htrail : (u.pair v).trail = v := by
    apply UInt16.toNat_inj.mp
    rw [CodePoint.toNat_trail]
    simp only [pair]
    omega
  rw [CodePoint.units_of_gt _ hgt, hlead, htrail]

end CodeUnit

namespace Text

/-- Units that are read are written back. -/
theorem units_decode (us : List CodeUnit) : (units (decode us)).toList = us := by
  simp only [units]
  induction us using decode.induct with
  | case1 => rfl
  | case2 u => rw [decode, List.flatMap_singleton, u.units_single]
  | case3 u v rest hp ih =>
    rw [Bool.and_eq_true] at hp
    rw [decode_pair hp, List.flatMap_cons, ih, CodeUnit.units_pair hp]
    rfl
  | case4 u v rest hp ih =>
    rw [Bool.and_eq_true] at hp
    rw [decode_lone hp, List.flatMap_cons, ih, u.units_single]
    rfl

/-- The text of a span is written as the units of the span. -/
theorem units_ofUnits (units : Array CodeUnit) (start : Int) (stop : Option Int) :
    Text.units (ofUnits units start stop) = Position.slice units start stop :=
  Array.toList_inj.mp (units_decode (Position.slice units start stop).toList)

end Text

/-! ## Positions of a walk -/

namespace Cursor

@[simp] theorem map_snd_positions (start : Int) (t : Text) :
    (positions start t).map Prod.snd = t := by
  induction t generalizing start with
  | nil => rfl
  | cons c t ih => rw [positions, List.map_cons, ih]

/-- Each code point has the position behind the units of those before it. -/
theorem getElem?_positions (start : Int) (t : Text) (i : Nat) :
    (positions start t)[i]? = t[i]?.map fun c => (start + Text.width (t.take i), c) := by
  induction t generalizing start i with
  | nil => rfl
  | cons c t ih =>
    cases i with
    | zero => simp [positions]
    | succ i =>
      rw [positions, List.getElem?_cons_succ, ih, List.getElem?_cons_succ, List.take_succ_cons,
        Text.width_cons, Int.natCast_add, Int.add_assoc]

/-- The units of each code point start where those of the one before it stop. -/
theorem consecutive_positions (start : Int) (t : Text) :
    Consecutive Prod.fst (fun met => met.1 + met.2.width) start (start + t.width)
      (positions start t) := by
  induction t generalizing start with
  | nil => exact (Int.add_zero start).symm
  | cons c t ih =>
    have hpos := c.width_pos
    have hmore := ih (start + c.width)
    rw [Int.add_assoc, ← Int.natCast_add, ← Text.width_cons] at hmore
    refine ⟨rfl, ?_, hmore⟩
    simp only
    omega

end Cursor

/-! ## Writing, reading and walking -/

/-- Units are written back as they were read, for all units. A text is read back as it was written
unless two of its characters are surrogates that look like a pair, and takes as many units as its
characters are wide. Between any two positions inside, a walk meets the code points that are read
there in one go: the first at its start, each further one where the units of the one before it stop,
and the last stops where the walk does. A lead unit there is alone, even if the units go on with
its trail unit. -/
theorem encodings_agree :
    (∀ units : Array CodeUnit, (Text.ofUnits units 0 none).units = units) ∧
    (∀ t : Text, Text.ofUnits t.units 0 none = t ↔ ¬ Text.HasPair t) ∧
    (∀ t : Text, t.units.size = (t.map CodePoint.width).sum) ∧
    ∀ (units : Array CodeUnit) (start stop : Nat), start ≤ stop → stop ≤ units.size →
      ∃ met, Cursor.walk units start stop = .ok met ∧
        met.map Prod.snd = Text.ofUnits units start (some stop) ∧
        Consecutive Prod.fst (fun m => m.1 + m.2.width) start stop met ∧
        ∀ u, start < stop → units[stop - 1]? = some u → u.isLead = true →
          (Text.ofUnits units start (some stop)).getLast? = some u.single := by
  refine ⟨?_, ?_, ?_, ?_⟩
  · intro units
    rw [Text.ofUnits_all]
    exact Array.toList_inj.mp (Text.units_decode units.toList)
  · intro t
    rw [Text.ofUnits_all]
    exact Text.decode_units_eq_iff
  · intro t
    rw [Text.size_units]
    induction t with
    | nil => rfl
    | cons c t ih => rw [Text.width_cons, ih, List.map_cons, List.sum_cons]
  · intro units start stop hle hsize
    refine ⟨_, Cursor.walk_eq hle hsize, Cursor.map_snd_positions _ _, ?_, ?_⟩
    · have hpositions := Cursor.consecutive_positions start (Text.ofUnits units start (some stop))
      rw [Text.width_ofUnits hle hsize, ← Int.natCast_add, Nat.add_sub_cancel' hle] at hpositions
      exact hpositions
    · intro u hlt hu hlead
      have hspan : (units.toList.drop start).take (stop - start) =
          (units.toList.drop start).take (stop - 1 - start) ++ [u] := by
        have hcount : stop - start = stop - 1 - start + 1 := by omega
        have hlast : (units.toList.drop start)[stop - 1 - start]? = some u := by
          rw [List.getElem?_drop, Nat.add_sub_cancel' (by omega), Array.getElem?_toList, hu]
        rw [hcount, List.take_add_one, hlast]
        rfl
      rw [Text.ofUnits_eq_decode units start stop hsize, hspan]
      rw [Text.decode_concat_of_isLead hlead, List.getLast?_concat]

/-- A walk that ends within a pair, after a pair and a trail unit that stands alone. -/
theorem encodings_agree_cut :
    ∃ met, Cursor.walk #[0x61, 0xD835, 0xDC00, 0xDC00, 0xD800, 0xDC01] 1 5 = .ok met ∧
      met.map Prod.snd = [0x1D400, 0xDC00, 0xD800] ∧
      Consecutive Prod.fst (fun m => m.1 + m.2.width) 1 5 met ∧
      (met.map Prod.snd).getLast? = some (0xD800 : CodePoint) := by
  obtain ⟨-, -, -, hwalks⟩ := encodings_agree
  obtain ⟨met, hwalk, hmet, hpositions, hlast⟩ :=
    hwalks #[0x61, 0xD835, 0xDC00, 0xDC00, 0xD800, 0xDC01] 1 5 (by decide) (by decide)
  have hread : Text.ofUnits #[0x61, 0xD835, 0xDC00, 0xDC00, 0xD800, 0xDC01] 1 (some 5) =
      [0x1D400, 0xDC00, 0xD800] := by decide +kernel
  have hlead := hlast 0xD800 (by decide) rfl (by decide)
  refine ⟨met, hwalk, hmet.trans hread, hpositions, ?_⟩
  rw [hmet]
  exact hlead

end LineRuns
