import LineRuns.Proofs.Line.Tiling
import LineRuns.Proofs.Run.LevelOrder

/-!
# Divided lines in visual order

Runs have directions and no levels, but each run of a divided line lies inside one logical run and
has its level. Where the logical runs are at two levels only, the lower one first, the visual order
of the line is the order of these levels.
-/

namespace LineRuns

open Script (Lookup)

namespace Line

variable {lookup : Lookup} {units : Array CodeUnit} {t : Text} {logical : List Bidi.LogicalRun}
  {p : Nat}

/-- The runs of logical runs, each with the level of the logical run that it comes from. -/
def leveledRuns (lookup : Lookup) (units : Array CodeUnit) (logical : List Bidi.LogicalRun) :
    List (Run × Nat) :=
  logical.flatMap fun l => (runsIn lookup units l).map fun run => (run, l.level)

theorem map_fst_leveledRuns :
    (leveledRuns lookup units logical).map Prod.fst = logical.flatMap (runsIn lookup units) := by
  rw [leveledRuns, List.map_flatMap]
  simp [Function.comp_def]

theorem mem_leveledRuns {r : Run × Nat} :
    r ∈ leveledRuns lookup units logical ↔
      ∃ l ∈ logical, r.1 ∈ runsIn lookup units l ∧ r.2 = l.level := by
  simp only [leveledRuns, List.mem_flatMap, List.mem_map]
  constructor
  · rintro ⟨l, hl, run, hrun, rfl⟩
    exact ⟨l, hl, hrun, rfl⟩
  · rintro ⟨l, hl, hrun, hlevel⟩
    exact ⟨l, hl, r.1, hrun, by rw [← hlevel]⟩

/-- The first run has the level of the first logical run, which gives a run at least. -/
theorem level_head?_leveledRuns (hlogical : Bidi.LogicalRun.Follow 0 t.width logical)
    (hfirst : ∀ l ∈ logical.head?, l.level = p) :
    ∀ first ∈ (leveledRuns lookup t.units logical).head?, first.2 = p := by
  cases logical with
  | nil =>
    intro first h
    cases h
  | cons l rest =>
    obtain ⟨hle, hsize⟩ := hlogical.within_units List.mem_cons_self
    have hruns := consecutive_runsIn lookup hle hsize
    have hpos := (hlogical.bounds List.mem_cons_self).2.1
    cases hl : runsIn lookup t.units l with
    | nil =>
      rw [hl] at hruns
      have hempty : (l.start : Int) = l.stop := hruns
      omega
    | cons run more =>
      intro first h
      rw [leveledRuns, List.flatMap_cons, hl] at h
      obtain rfl := Option.some.inj h
      exact hfirst l rfl

/-- Where logical runs are at two levels, the runs inside them are seen in the order of levels. -/
theorem visualRuns_flatMap (lookup : Lookup)
    (hlogical : Bidi.LogicalRun.Follow 0 t.width logical)
    (hfirst : ∀ l ∈ logical.head?, l.level = p)
    (hlevels : ∀ l ∈ logical, l.level = p ∨ l.level = p + 1) :
    (⟨t, logical.flatMap (runsIn lookup t.units)⟩ : Line).visualRuns =
      (Run.levelOrder (leveledRuns lookup t.units logical)).map Prod.fst := by
  have hlevels' : ∀ r ∈ leveledRuns lookup t.units logical, r.2 = p ∨ r.2 = p + 1 := by
    intro r hr
    obtain ⟨l, hl, -, hlevel⟩ := mem_leveledRuns.mp hr
    exact hlevel ▸ hlevels l hl
  have hdirections : ∀ r ∈ leveledRuns lookup t.units logical,
      r.1.direction = Direction.ofLevel r.2 := by
    intro r hr
    obtain ⟨l, -, hrun, hlevel⟩ := mem_leveledRuns.mp hr
    exact hlevel ▸ direction_of_mem_runsOfPieces hrun
  rw [visualRuns, Run.run_visual, ← map_fst_leveledRuns]
  exact Run.visualOrder_eq_levelOrder (level_head?_leveledRuns hlogical hfirst) hlevels' hdirections

end Line

/-- What the order of runs comes to, for runs of whatever origin and for divided lines.

Runs with levels that are at the level of the first run or the next one, and have the directions of
their levels, come into the order that rule L2 prescribes for the levels. So do the runs of a line,
with the levels of the logical runs that they lie inside. Runs of any directions, or of none, are
neither lost nor doubled nor changed; put into order where they stand they come into the order that
is otherwise seen in a copy, and making the copy leaves them where they are. -/
theorem reorder_refines_levelOrder :
    (∀ (runs : List (Run × Nat)) (p : Nat), (∀ first ∈ runs.head?, first.2 = p) →
      (∀ r ∈ runs, r.2 = p ∨ r.2 = p + 1) →
      (∀ r ∈ runs, r.1.direction = Direction.ofLevel r.2) →
        (Run.reorder.run (runs.map Prod.fst)).2 = (Run.levelOrder runs).map Prod.fst) ∧
    (∀ (lookup : Lookup) (ctx : Bidi.Context) (fault : Option Text) (source : Source) (t : Text)
      (logical : List Bidi.LogicalRun) (p : Nat), source.checked = .ok t →
      (ctx.analyse t fault).2 = .ok logical → (∀ first ∈ logical.head?, first.level = p) →
      (∀ l ∈ logical, l.level = p ∨ l.level = p + 1) →
        ∃ line leveled, (Line.divide lookup ctx source fault).2 = .ok line ∧
          leveled.map Prod.fst = line.runs ∧
          (∀ r ∈ leveled, ∃ l ∈ logical, r.1.IsInside l ∧ r.2 = l.level) ∧
          line.visualRuns = (Run.levelOrder leveled).map Prod.fst) ∧
    (∀ items : List Run, (Run.reorder.run items).2.Perm items ∧
      Run.visual.run items = ((Run.reorder.run items).2, items)) ∧
    ∀ line : Line, line.visualRuns = line.reordered.runs ∧ line.reordered.text = line.text := by
  refine ⟨?_, ?_, ?_, ?_⟩
  · intro runs p hfirst hlevels hdirections
    rw [Run.run_reorder]
    exact Run.visualOrder_eq_levelOrder hfirst hlevels hdirections
  · intro lookup ctx fault source t logical p hchecked hanalyse hfirst hlevels
    obtain ⟨levels, hresolved, rfl⟩ := Bidi.Context.exists_levels_of_analyse hanalyse
    have hlogical := Bidi.follow_logicalRuns (Bidi.length_levels hresolved)
    refine ⟨_, Line.leveledRuns lookup t.units (Bidi.logicalRuns t levels),
      Line.divide_of_levels lookup ctx hchecked hresolved, Line.map_fst_leveledRuns, ?_,
      Line.visualRuns_flatMap lookup hlogical hfirst hlevels⟩
    intro r hr
    obtain ⟨l, hl, hrun, hlevel⟩ := Line.mem_leveledRuns.mp hr
    obtain ⟨hle, hsize⟩ := hlogical.within_units hl
    obtain ⟨hstart, -, hstop⟩ := (consecutive_runsIn lookup hle hsize).bounds hrun
    exact ⟨l, hl, ⟨hstart, hstop⟩, hlevel⟩
  · intro items
    rw [Run.run_reorder, Run.run_visual]
    exact ⟨Run.visualOrder_perm items, rfl⟩
  · intro line
    rw [Line.visualRuns, Line.reordered, Run.run_reorder, Run.run_visual]
    exact ⟨rfl, rfl⟩

/-- A right-to-left line with digits in it. -/
def digits : Text :=
  [0x5D0, 0x20, 0x31, 0x32, 0x5D1]

/-- Two stretches of a right-to-left line keep their order, a line with digits is seen in the order
of its levels, and runs without a direction are there after all. -/
theorem reorder_digits_refines_levelOrder :
    (Run.reorder.run [⟨0, 1, "Hebr", .rightToLeft⟩, ⟨1, 2, "Zyyy", .leftToRight⟩,
        ⟨3, 1, "Latn", .leftToRight⟩, ⟨4, 2, "Hebr", .rightToLeft⟩]).2 =
      [⟨4, 2, "Hebr", .rightToLeft⟩, ⟨1, 2, "Zyyy", .leftToRight⟩, ⟨3, 1, "Latn", .leftToRight⟩,
        ⟨0, 1, "Hebr", .rightToLeft⟩] ∧
    (∃ line leveled, (Line.divide .standard .fresh (.text digits) none).2 = .ok line ∧
      leveled.map Prod.fst = line.runs ∧ (∀ r ∈ leveled, r.2 = 1 ∨ r.2 = 2) ∧
      line.visualRuns = (Run.levelOrder leveled).map Prod.fst) ∧
    (Run.reorder.run [⟨0, 1, "Zzzz", .invalid⟩, ⟨1, 1, "Zzzz", .invalid⟩]).2.Perm
      [⟨0, 1, "Zzzz", .invalid⟩, ⟨1, 1, "Zzzz", .invalid⟩] := by
  obtain ⟨hruns, htexts, hlists, -⟩ := reorder_refines_levelOrder
  refine ⟨?_, ?_, (hlists _).1⟩
  · have horder := hruns [(⟨0, 1, "Hebr", .rightToLeft⟩, 1), (⟨1, 2, "Zyyy", .leftToRight⟩, 2),
      (⟨3, 1, "Latn", .leftToRight⟩, 2), (⟨4, 2, "Hebr", .rightToLeft⟩, 1)] 1
      (by decide) (by decide) (by decide)
    exact horder.trans (by decide)
  · have hchecked : Source.checked (.text digits) = .ok digits := by decide
    have hanalyse : (Bidi.Context.fresh.analyse digits none).2 =
        .ok [⟨0, 2, 1⟩, ⟨2, 4, 2⟩, ⟨4, 5, 1⟩] := by decide +kernel
    have hlevels : ∀ l ∈ ([⟨0, 2, 1⟩, ⟨2, 4, 2⟩, ⟨4, 5, 1⟩] : List Bidi.LogicalRun),
        l.level = 1 ∨ l.level = 2 := by decide
    obtain ⟨line, leveled, hline, hleveled, hinside, hvisual⟩ :=
      htexts .standard .fresh none (.text digits) digits _ 1 hchecked hanalyse (by decide) hlevels
    refine ⟨line, leveled, hline, hleveled, ?_, hvisual⟩
    intro r hr
    obtain ⟨l, hl, -, hlevel⟩ := hinside r hr
    exact hlevel ▸ hlevels l hl

end LineRuns
