import LineRuns.Proofs.Script.Segments
import LineRuns.Proofs.Text.RoundTrip

/-!
# How far an interval goes

An interval is found by a scan that narrows the scripts of its first code point. What it comes to
can be said without the scan: the scripts that the first code point shares with the next ones are a
filter of its own (`shared`), and the interval stops in front of the first code point that leaves
none, or goes through to the end (`Longest` says the same of pieces). The order of scripts is that
of the first code point throughout.
-/

namespace LineRuns.Script

variable {lookup : Lookup} {c : CodePoint}

/-! ## Shared scripts -/

/-- The scripts of a code point that are admitted by all of some others, in the order that they have
there. -/
def shared (lookup : Lookup) (c : CodePoint) (others : Text) : List Code :=
  (extensions lookup c).filter fun s =>
    others.all fun d => isInherited (extensions lookup d) || (extensions lookup d).contains s

@[simp] theorem shared_nil : shared lookup c [] = extensions lookup c :=
  List.filter_true _

/-- Joining code points one by one is one filter. -/
theorem foldl_narrow (current : List Code) (others : Text) :
    others.foldl (narrow lookup) current = current.filter fun s => others.all fun d =>
      isInherited (extensions lookup d) || (extensions lookup d).contains s := by
  induction others generalizing current with
  | nil => exact (List.filter_true current).symm
  | cons d others ih =>
    have hfirst : narrow lookup current d = current.filter fun s =>
        isInherited (extensions lookup d) || (extensions lookup d).contains s := by
      rw [narrow, narrowBy]
      cases isInherited (extensions lookup d) <;> simp
    rw [List.foldl_cons, ih, hfirst, List.filter_filter]
    simp only [List.all_cons, Bool.and_comm]

theorem common_cons (others : Text) : common lookup (c :: others) = shared lookup c others :=
  foldl_narrow (extensions lookup c) others

/-- A first code point without scripts shares none. -/
theorem shared_eq_nil (h : extensions lookup c = []) (others : Text) :
    shared lookup c others = [] := by
  rw [shared, h, List.filter_nil]

/-- The interval at the start of a text takes as many code points as leave a script, and the next
one would leave none. -/
theorem exists_ofText_eq (lookup : Lookup) (c : CodePoint) (others : Text) :
    ∃ n, n ≤ others.length ∧
      Interval.ofText lookup (c :: others) =
        ⟨Text.width (c :: others.take n), (shared lookup c (others.take n)).head?⟩ ∧
      (∀ i, 1 ≤ i → i ≤ n → shared lookup c (others.take i) ≠ []) ∧
      (n < others.length → shared lookup c (others.take (n + 1)) = []) := by
  obtain ⟨piece, left, heq, hne, hfound, hsegments⟩ :=
    exists_interval_eq lookup (List.cons_ne_nil c others)
  have hlongest := longest_segments lookup (c :: others)
  rw [hsegments] at hlongest
  cases hlongest with
  | cons hpiece hstop _ =>
    rw [flatten_segments] at hstop
    cases piece with
    | nil => exact absurd rfl hne
    | cons d taken =>
      rw [List.cons_append] at heq
      obtain ⟨rfl, rfl⟩ := List.cons.inj heq
      refine ⟨taken.length, by simp, ?_, ?_, ?_⟩
      · rw [hfound, common_cons, List.take_left]
      · intro i hi hle
        -- a beginning of the piece is homogeneous, too
        have hbegin : Homogeneous lookup (c :: taken.take i) := by
          refine Homogeneous.of_append (q := taken.drop i) ?_ (List.cons_ne_nil c _)
          rwa [List.cons_append, List.take_append_drop]
        rw [homogeneous_cons_iff, common_cons] at hbegin
        rw [List.take_append_of_le_length hle]
        refine hbegin.resolve_left fun hnil => ?_
        have hlength := congrArg List.length hnil
        rw [List.length_take, List.length_nil] at hlength
        omega
      · intro hlt
        cases left with
        | nil => simp at hlt
        | cons d left =>
          have hnext := hstop d rfl
          rw [List.cons_append, homogeneous_cons_iff, common_cons] at hnext
          have htake : (taken ++ d :: left).take (taken.length + 1) = taken ++ [d] := by
            rw [List.take_length_add_append]
            rfl
          rw [htake]
          exact not_not.mp (not_or.mp hnext).2

/-! ## Intervals between positions -/

/-- Where a scan of code points stops, each given with its position: it starts with `c`, whose
scripts narrow, and stops in front of the first of the others that leaves none, or else at the end.
The first script left in front of there is what the interval is known by. -/
def Stops (lookup : Lookup) (start stop : Int) (c : CodePoint) (others : List (Int × CodePoint))
    (found : Interval) : Prop :=
  let left (j : Nat) : List Code := shared lookup c ((others.take j).map Prod.snd)
  (∃ j o d, others[j]? = some (o, d) ∧ left (j + 1) = [] ∧ (∀ i, 1 ≤ i → i ≤ j → left i ≠ []) ∧
    (found.length : Int) = o - start ∧ found.script = (left j).head?) ∨
  ((∀ i, 1 ≤ i → i ≤ others.length → left i ≠ []) ∧
    (found.length : Int) = stop - start ∧ found.script = (left others.length).head?)

theorem stops_ofText (lookup : Lookup) (start : Int) (c : CodePoint) (rest : Text) :
    Stops lookup start (start + Text.width (c :: rest)) c (Cursor.positions (start + c.width) rest)
      (Interval.ofText lookup (c :: rest)) := by
  obtain ⟨n, hn, hfound, hleave, hnone⟩ := exists_ofText_eq lookup c rest
  simp only [Stops, List.map_take, Cursor.map_snd_positions, Cursor.length_positions, hfound]
  rcases Nat.lt_or_eq_of_le hn with hlt | rfl
  · left
    refine ⟨n, start + c.width + Text.width (rest.take n), rest[n], ?_, hnone hlt, hleave, ?_, rfl⟩
    · rw [Cursor.getElem?_positions, List.getElem?_eq_getElem hlt, Option.map_some]
    · rw [Text.width_cons]
      omega
  · right
    refine ⟨hleave, ?_, rfl⟩
    rw [List.take_length]
    omega

/-- What the first code point shares with others is among its own scripts. -/
theorem ne_nil_of_shared {others : Text} (h : shared lookup c others ≠ []) :
    extensions lookup c ≠ [] :=
  fun hnil => h (shared_eq_nil hnil others)

theorem script_ofText_eq_none_iff {rest : Text} :
    (Interval.ofText lookup (c :: rest)).script = none ↔ extensions lookup c = [] := by
  obtain ⟨n, -, hfound, hleave, -⟩ := exists_ofText_eq lookup c rest
  rw [hfound, List.head?_eq_none_iff]
  refine ⟨fun hnil => ?_, fun hnil => shared_eq_nil hnil _⟩
  rcases Nat.eq_zero_or_pos n with rfl | hpos
  · rwa [List.take_zero, shared_nil] at hnil
  · exact absurd hnil (hleave n hpos (Nat.le_refl n))

/-- A code point without scripts is an interval by itself. -/
theorem length_ofText_of_eq_nil {rest : Text} (h : extensions lookup c = []) :
    (Interval.ofText lookup (c :: rest)).length = c.width := by
  obtain ⟨n, -, hfound, hleave, -⟩ := exists_ofText_eq lookup c rest
  rcases Nat.eq_zero_or_pos n with rfl | hpos
  · rw [hfound, List.take_zero, Text.width_cons, Text.width_nil, Nat.add_zero]
  · exact absurd h (ne_nil_of_shared (hleave n hpos (Nat.le_refl n)))

theorem exists_interval_error_iff {units : Array CodeUnit} {start length : Int} :
    (∃ e, interval lookup units start length = .error e) ↔
      length ≤ 0 ∨ start < 0 ∨ (units.size : Int) < start + length := by
  rw [interval]
  split
  · rename_i hlength
    exact iff_of_true ⟨_, rfl⟩ (Or.inl hlength)
  · rename_i hlength
    split
    · rename_i hinside
      exact iff_of_true ⟨_, rfl⟩ (Or.inr hinside)
    · rename_i hinside
      refine iff_of_false ?_ (not_or.mpr ⟨hlength, hinside⟩)
      rintro ⟨e, he⟩
      cases he

/-- A range is refused if and only if it has no length or is not inside the units. Any other is
scanned code point by code point as a walk meets them, a pair that its end cuts as the bare lead
unit: the interval stops in front of the first code point that leaves no script in common. It has a
script unless its first code point has none and then is that code point alone, whatever follows. It
is not empty, stays in the range, and does not end within a pair there. -/
theorem interval_stops (lookup : Lookup) (units : Array CodeUnit) (start length : Int) :
    ((∃ e, interval lookup units start length = .error e) ↔
      length ≤ 0 ∨ start < 0 ∨ (units.size : Int) < start + length) ∧
    (0 < length → 0 ≤ start → start + length ≤ units.size →
      ∃ found c others, interval lookup units start length = .ok found ∧
        Cursor.walk units start (start + length) = .ok ((start, c) :: others) ∧
        Stops lookup start (start + length) c others found ∧
        (found.script = none ↔ extensions lookup c = []) ∧
        (extensions lookup c = [] → found.length = c.width) ∧
        1 ≤ found.length ∧ (found.length : Int) ≤ length ∧
        ∀ (k : Nat) (u v : CodeUnit), start + found.length = k + 1 →
          (k : Int) + 1 < start + length → units[k]? = some u → units[k + 1]? = some v →
            ¬ (u.isLead = true ∧ v.isTrail = true)) := by
  refine ⟨exists_interval_error_iff, fun hlength hstart hstop => ?_⟩
  have hinterval := interval_eq_ok lookup hlength hstart hstop
  obtain ⟨s, rfl⟩ := Int.eq_ofNat_of_zero_le hstart
  obtain ⟨n, rfl⟩ := Int.eq_ofNat_of_zero_le hlength.le
  rw [← Int.natCast_add] at hinterval hstop ⊢
  rw [Int.ofNat_le] at hstop
  have hle : s ≤ s + n := Nat.le_add_right s n
  have hwalk := Cursor.walk_eq hle hstop
  have hwidth := Text.width_ofUnits hle hstop
  rw [Nat.add_sub_cancel_left] at hwidth
  cases htext : Text.ofUnits units s (some ((s + n : Nat) : Int)) with
  | nil =>
    rw [htext, Text.width_nil] at hwidth
    omega
  | cons c rest =>
    rw [htext] at hinterval hwalk hwidth
    obtain ⟨piece, left, heq, hpiece, hfound, -⟩ :=
      exists_interval_eq lookup (List.cons_ne_nil c rest)
    have hstops := stops_ofText lookup s c rest
    have hpos := Text.width_pos_iff.mpr hpiece
    have hlengths := congrArg Text.width heq
    rw [hwidth, Text.width_append] at hlengths
    rw [hwidth, ← Int.natCast_add] at hstops
    refine ⟨_, c, _, hinterval, hwalk, hstops, script_ofText_eq_none_iff, length_ofText_of_eq_nil,
      ?_, ?_, ?_⟩
    · rw [hfound]
      exact hpos
    · rw [hfound]
      simp only
      omega
    · intro k u v hk hlt hu hv
      rw [hfound] at hk
      rw [heq] at htext
      simp only at hk
      exact Text.not_isLead_isTrail_of_ofUnits hstop htext hpiece (by omega) (by omega) hu hv

/-- A space has no scripts and a mark is inherited; all else is Latin, but for two Greek letters. -/
def fewScripts : Lookup := fun c =>
  if c = 0x20 then none
  else if c = 0x300 then some ["Zinh"]
  else if c = 0x1D6A8 ∨ c = 0x3B1 then some ["Grek"]
  else some ["Latn"]

/-- An interval goes on over a mark and a Greek letter and stops at a Latin one, with Greek; a code
point without scripts keeps no mark behind it. -/
theorem interval_stops_fewScripts :
    (∃ c others, Cursor.walk #[0xD835, 0xDEA8, 0x300, 0x3B1, 0x61] 0 5 = .ok ((0, c) :: others) ∧
      Stops fewScripts 0 5 c others ⟨4, some "Grek"⟩) ∧
    (∃ c others, Cursor.walk #[0x61, 0x20, 0x300, 0x61] 1 4 = .ok ((1, c) :: others) ∧
      Stops fewScripts 1 4 c others ⟨1, none⟩ ∧ extensions fewScripts c = []) ∧
    ∃ e, interval fewScripts #[0x61, 0x62] 1 2 = .error e := by
  have hmark : interval fewScripts #[0xD835, 0xDEA8, 0x300, 0x3B1, 0x61] 0 5 =
      .ok ⟨4, some "Grek"⟩ := by decide +kernel
  have hspace : interval fewScripts #[0x61, 0x20, 0x300, 0x61] 1 3 = .ok ⟨1, none⟩ := by
    decide +kernel
  refine ⟨?_, ?_, ?_⟩
  · obtain ⟨found, c, others, hfound, hwalk, hstops, -⟩ :=
      (interval_stops fewScripts #[0xD835, 0xDEA8, 0x300, 0x3B1, 0x61] 0 5).2 (by decide)
        (by decide) (by decide)
    obtain rfl := Except.ok.inj (hmark.symm.trans hfound)
    exact ⟨c, others, hwalk, hstops⟩
  · obtain ⟨found, c, others, hfound, hwalk, hstops, hnone, -⟩ :=
      (interval_stops fewScripts #[0x61, 0x20, 0x300, 0x61] 1 3).2 (by decide) (by decide)
        (by decide)
    obtain rfl := Except.ok.inj (hspace.symm.trans hfound)
    exact ⟨c, others, hwalk, hstops, hnone.mp rfl⟩
  · exact (interval_stops fewScripts #[0x61, 0x62] 1 2).1.mpr (by decide)

end LineRuns.Script
