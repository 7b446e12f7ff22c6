import LineRuns.Text.Units
import Mathlib.Data.List.Basic

/-!
# Reading code units

Units that are read piece by piece, and units that are read with a cursor.
-/

/-! ## Units piece by piece

A text read from units takes as many units as there were, and a piece of it takes the units it
was read from: cutting the units where a code point ends cuts the text there. So lengths in units
and lengths in code points can be carried side by side.
-/

namespace LineRuns

/-- A unit that stands alone is one unit wide. -/
@[simp] theorem CodeUnit.width_single (u : CodeUnit) : u.single.width = 1 := by
  have h := u.toNat_lt
  have hle : ¬ u.toNat > 0xFFFF := by omega
  simp [CodePoint.width, CodeUnit.single, hle]

/-- A pair is two units wide. -/
@[simp] theorem CodeUnit.width_pair (u v : CodeUnit) : (u.pair v).width = 2 := by
  have hgt : 0x10000 + u.toNat % 0x400 * 0x400 + v.toNat % 0x400 > 0xFFFF := by omega
  simp only [CodePoint.width, CodeUnit.pair, hgt, if_true]

namespace Text

/-- A text read from units takes all of them. -/
theorem width_decode (us : List CodeUnit) : width (decode us) = us.length := by
  induction us using decode.induct with
  | case1 => rfl
  | case2 u => simp [decode]
  | case3 u v rest h ih =>
    rw [decode, if_pos h, width_cons, CodeUnit.width_pair, ih]
    simp only [List.length_cons]
    omega
  | case4 u v rest h ih =>
    rw [decode, if_neg h, width_cons, CodeUnit.width_single, ih]
    simp only [List.length_cons]
    omega

/-- A lone unit stays alone when less comes after it. -/
private theorem decode_cons_take {u : CodeUnit} {us : List CodeUnit}
    (h : ∀ v ∈ us.head?, ¬ (u.isLead && v.isTrail)) (n : Nat) :
    decode (u :: us.take n) = u.single :: decode (us.take n) := by
  cases us with
  | nil => simp [decode]
  | cons v rest =>
    cases n with
    | zero => simp [decode]
    | succ n =>
      have hv := h v (by simp)
      rw [List.take_succ_cons, decode, if_neg hv]

/-- The units of the first code points of a text read from units: they read as these, and what
comes after them as the others. -/
theorem decode_split {us : List CodeUnit} {a b : Text} (h : decode us = a ++ b) :
    decode (us.take (width a)) = a ∧ decode (us.drop (width a)) = b := by
  induction us using decode.induct generalizing a with
  | case1 =>
    obtain ⟨rfl, rfl⟩ := List.nil_eq_append_iff.mp h
    exact ⟨rfl, rfl⟩
  | case2 u =>
    cases a with
    | nil => exact ⟨rfl, h⟩
    | cons c a =>
      obtain ⟨rfl, hab⟩ := List.cons.inj h
      obtain ⟨rfl, rfl⟩ := List.nil_eq_append_iff.mp hab
      simp [decode]
  | case3 u v rest hp ih =>
    cases a with
    | nil => exact ⟨rfl, h⟩
    | cons c a =>
      -- both units go to the first code point, so the cut falls behind them
      rw [decode, if_pos hp] at h
      obtain ⟨rfl, hab⟩ := List.cons.inj h
      obtain ⟨htake, hdrop⟩ := ih hab
      have hw : width (u.pair v :: a) = width a + 1 + 1 := by simp; omega
      rw [hw]
      simp only [List.take_succ_cons, List.drop_succ_cons]
      exact ⟨by rw [decode, if_pos hp, htake], hdrop⟩
  | case4 u v rest hp ih =>
    cases a with
    | nil => exact ⟨rfl, h⟩
    | cons c a =>
      rw [decode, if_neg hp] at h
      obtain ⟨rfl, hab⟩ := List.cons.inj h
      obtain ⟨htake, hdrop⟩ := ih hab
      have hw : width (u.single :: a) = width a + 1 := by simp; omega
      rw [hw]
      simp only [List.take_succ_cons, List.drop_succ_cons]
      refine ⟨?_, hdrop⟩
      -- the unit is alone among the units taken because it is alone among all
      have hlone : ∀ w ∈ (v :: rest).head?, ¬ (u.isLead && w.isTrail) := by
        intro w hw
        obtain rfl := Option.some.inj hw
        exact hp
      rw [decode_cons_take hlone, htake]

/-! ### Spans of units -/

/-- The text of the units between two positions inside. -/
theorem ofUnits_eq_decode (units : Array CodeUnit) (start stop : Nat) (h : stop ≤ units.size) :
    ofUnits units start (some stop) = decode ((units.toList.drop start).take (stop - start)) := by
  simp only [ofUnits, Position.slice, Option.map_some, Option.getD_some, Position.clamp_ofNat,
    Array.toList_extract, List.extract_eq_take_drop]
  rw [Nat.min_eq_right h]
  rcases Nat.le_total start units.size with hs | hs
  · rw [Nat.min_eq_right hs]
  · -- a start behind the end is clamped, and nothing is left
    have hlen : units.toList.length ≤ start := by simpa using hs
    rw [Nat.min_eq_left hs, List.drop_of_length_le hlen]
    simp [List.drop_of_length_le]

theorem ofUnits_all (units : Array CodeUnit) : ofUnits units 0 none = decode units.toList := by
  simp only [ofUnits, Position.slice, Option.map_none, Option.getD_none]
  rw [show (0 : Int) = (0 : Nat) from rfl, Position.clamp_ofNat, Nat.min_zero, Array.extract_size]

/-- A span takes as many units as it is long. -/
theorem width_ofUnits {units : Array CodeUnit} {start stop : Nat} (hs : start ≤ stop)
    (h : stop ≤ units.size) : width (ofUnits units start (some stop)) = stop - start := by
  rw [ofUnits_eq_decode units start stop h, width_decode]
  simp only [List.length_take, List.length_drop, Array.length_toList]
  omega

/-- Behind the last unit there is nothing to read. -/
theorem ofUnits_of_le {units : Array CodeUnit} {start stop : Nat} (hs : stop ≤ start)
    (h : stop ≤ units.size) : ofUnits units start (some stop) = [] := by
  rw [ofUnits_eq_decode units start stop h, Nat.sub_eq_zero_of_le hs, List.take_zero]
  rfl

/-- The code points of a span that come first are those of the units they take. -/
theorem ofUnits_split {units : Array CodeUnit} {start stop : Nat} {a b : Text}
    (hs : start ≤ stop) (h : stop ≤ units.size)
    (hab : ofUnits units start (some stop) = a ++ b) :
    start + width a ≤ stop ∧
      ofUnits units start (some ((start + width a : Nat) : Int)) = a ∧
      ofUnits units ((start + width a : Nat) : Int) (some stop) = b := by
  have hle : start + width a ≤ stop := by
    have hw := width_ofUnits hs h
    rw [hab, width_append] at hw
    omega
  rw [ofUnits_eq_decode units start stop h] at hab
  obtain ⟨htake, hdrop⟩ := decode_split hab
  rw [ofUnits_eq_decode units start _ (by omega), ofUnits_eq_decode units _ stop h]
  refine ⟨hle, ?_, ?_⟩
  · rw [List.take_take] at htake
    rwa [show start + width a - start = min (width a) (stop - start) by omega]
  · rw [List.drop_take, List.drop_drop] at hdrop
    rwa [show stop - (start + width a) = stop - start - width a by omega]

end Text

end LineRuns

/-! ## Walks read what is there

A walk between two positions inside some units meets the code points that these units read as,
each at the position where its units start. So a count is the length of the text of a span.
-/

namespace LineRuns.Cursor

variable {units : Array CodeUnit} {start stop : Nat}

/-- The characters of a text whose units start at a position, each with its own position. -/
def positions (start : Int) : Text → List (Int × CodePoint)
  | [] => []
  | c :: t => (start, c) :: positions (start + c.width) t

@[simp] theorem length_positions (start : Int) (t : Text) :
    (positions start t).length = t.length := by
  induction t generalizing start with
  | nil => rfl
  | cons c t ih => rw [positions, List.length_cons, ih, List.length_cons]

theorem unitAt_natCast (h : start < units.size) : unitAt units start = .ok units[start] := by
  rw [unitAt, Position.index?_ofNat, if_pos h, Option.bind_some, Array.getElem?_eq_getElem h]

/-- The units of a span begin with the unit at its start. -/
private theorem units_span (hlt : start < stop) (h : stop ≤ units.size) :
    (units.toList.drop start).take (stop - start) =
      units[start] :: (units.toList.drop (start + 1)).take (stop - (start + 1)) := by
  have hlength : start < units.toList.length := by
    rw [Array.length_toList]
    omega
  have hcount : stop - start = stop - (start + 1) + 1 := by omega
  rw [List.drop_eq_getElem_cons hlength, hcount, List.take_succ_cons, Array.getElem_toList]

/-- The code point met at a position is the first one of the text from there. -/
theorem exists_step_eq (hlt : start < stop) (h : stop ≤ units.size) :
    ∃ c t, Text.ofUnits units start (some stop) = c :: t ∧
      step units start stop = .ok (c, c.width) := by
  have hfirst : unitAt units start = .ok units[start] := unitAt_natCast (by omega)
  rw [Text.ofUnits_eq_decode units start stop h, units_span hlt h]
  by_cases hmore : start + 1 < stop
  · have hsecond : unitAt units ((start + 1 : Nat) : Int) = .ok units[start + 1] :=
      unitAt_natCast (by omega)
    rw [Int.natCast_add, Int.natCast_one] at hsecond
    have hmore' : (start : Int) + 1 < stop := by omega
    rw [units_span hmore h]
    cases hlead : units[start].isLead with
    | false =>
      refine ⟨units[start].single, _, by rw [Text.decode, hlead]; rfl, ?_⟩
      simp [step, bind, Except.bind, pure, Except.pure, hfirst, hlead]
    | true =>
      cases htrail : units[start + 1].isTrail with
      | false =>
        refine ⟨units[start].single, _, by rw [Text.decode, hlead, htrail]; rfl, ?_⟩
        simp [step, bind, Except.bind, pure, Except.pure, hfirst, hsecond, hlead, htrail, hmore']
      | true =>
        refine ⟨units[start].pair units[start + 1], _, by rw [Text.decode, hlead, htrail]; rfl, ?_⟩
        simp [step, bind, Except.bind, pure, Except.pure, hfirst, hsecond, hlead, htrail, hmore']
  · -- nothing is looked at behind the last unit of the span
    have hlast : stop - (start + 1) = 0 := by omega
    have hmore' : ¬ (start : Int) + 1 < stop := by omega
    rw [hlast, List.take_zero]
    refine ⟨units[start].single, [], rfl, ?_⟩
    simp [step, bind, Except.bind, pure, Except.pure, hfirst, hmore']

/-- A walk inside some units meets the text of the span, from its start on. -/
theorem walk_eq (hs : start ≤ stop) (h : stop ≤ units.size) :
    walk units start stop = .ok (positions start (Text.ofUnits units start (some stop))) := by
  -- on what is left of the span: each step takes a code point off its text
  induction hn : stop - start using Nat.strongRecOn generalizing start with
  | _ n ih =>
    rw [walk]
    split
    · rename_i hlt
      obtain ⟨c, t, htext, hstep⟩ := exists_step_eq (Int.ofNat_lt.mp hlt) h
      have hpos := c.width_pos
      obtain ⟨hle, -, hrest⟩ := Text.ofUnits_split (a := [c]) hs h htext
      rw [Text.width_cons, Text.width_nil, Nat.add_zero] at hle hrest
      have hmore := ih (stop - (start + c.width)) (by omega) hle rfl
      rw [hrest, Int.natCast_add] at hmore
      split
      · rename_i e herror
        rw [hstep] at herror
        cases herror
      · rename_i d n hok
        rw [hstep] at hok
        obtain ⟨rfl, rfl⟩ := Prod.mk.inj (Except.ok.inj hok)
        rw [hmore, htext]
        rfl
    · rename_i hge
      rw [Text.ofUnits_of_le (Int.ofNat_le.mp (Int.not_lt.mp hge)) h]
      rfl

/-- As many code points are counted in a span as its text has. -/
theorem count_eq (hs : start ≤ stop) (h : stop ≤ units.size) :
    count units start stop = .ok (Text.ofUnits units start (some stop)).length := by
  rw [count, walk_eq hs h]
  exact congrArg Except.ok (length_positions _ _)

end LineRuns.Cursor
