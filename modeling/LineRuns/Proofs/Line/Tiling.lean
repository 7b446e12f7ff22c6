import LineRuns.Proofs.Line.Division

/-!
# Divided lines are tiled

Whatever a lookup answers and whatever a context went through before, dividing a source that is a
line breaks no promise. Its runs tile its code units, and none crosses from one logical run into
another, from which it has its direction. A line that could not be analysed is a single run, and
it alone is degraded.
-/

namespace LineRuns

open Script (Lookup)

/-! ## Sources that are lines -/

/-- A source is a line if it has a text that is not empty and has no carriage return and no line
feed. Surrogates are no matter. -/
theorem Source.checked_eq_ok_iff {source : Source} {t : Text} :
    source.checked = .ok t ↔
      source.decoded = .ok t ∧ t ≠ [] ∧ ∀ c ∈ t, c.val ≠ 0x0D ∧ c.val ≠ 0x0A := by
  unfold Source.checked
  cases source.decoded with
  | error e =>
    constructor
    · intro h
      cases h
    · rintro ⟨h, -⟩
      cases h
  | ok decoded =>
    simp only [bind, Except.bind, Except.ok.injEq]
    split
    · rename_i hempty
      obtain rfl := List.isEmpty_iff.mp hempty
      simp only [reduceCtorEq, false_iff]
      rintro ⟨rfl, hne, -⟩
      exact hne rfl
    · rename_i hempty
      have hne : decoded ≠ [] := fun hnil => hempty (List.isEmpty_iff.mpr hnil)
      split
      · rename_i hbreak
        obtain ⟨c, hc, hbreak⟩ := List.any_eq_true.mp hbreak
        simp only [reduceCtorEq, false_iff]
        rintro ⟨rfl, -, hall⟩
        simp [isLineBreak, hall c hc] at hbreak
      · rename_i hbreak
        simp only [Except.ok.injEq]
        constructor
        · rintro rfl
          refine ⟨rfl, hne, fun c hc => ?_⟩
          simp only [List.any_eq_true, not_exists, not_and] at hbreak
          simpa [isLineBreak] using hbreak c hc
        · rintro ⟨rfl, -⟩
          rfl

theorem Source.ne_nil_of_checked {source : Source} {t : Text} (h : source.checked = .ok t) :
    t ≠ [] :=
  (checked_eq_ok_iff.mp h).2.1

/-! ## Runs inside logical runs -/

/-- A run that lies between the ends of a logical run. -/
def Run.IsInside (run : Run) (l : Bidi.LogicalRun) : Prop :=
  (l.start : Int) ≤ run.start ∧ run.stop ≤ (l.stop : Int)

instance (run : Run) (l : Bidi.LogicalRun) : Decidable (run.IsInside l) :=
  inferInstanceAs (Decidable (_ ∧ _))

/-- What is not empty lies inside at most one of the logical runs that follow one another. -/
theorem Run.IsInside.index_unique {run : Run} {a b : Nat} {logical : List Bidi.LogicalRun}
    (hlogical : Bidi.LogicalRun.Follow a b logical) (hrun : run.start < run.stop)
    {i j : Fin logical.length} (hi : run.IsInside logical[i]) (hj : run.IsInside logical[j]) :
    i = j :=
  Consecutive.index_unique hlogical hrun hi hj

namespace Line

variable {lookup : Lookup} {t : Text} {logical : List Bidi.LogicalRun} {run : Run}

/-- Each run of the logical runs lies inside one of them and has its direction. -/
theorem exists_isInside (hlogical : Bidi.LogicalRun.Follow 0 t.width logical)
    (hrun : run ∈ logical.flatMap (runsIn lookup t.units)) :
    ∃ i : Fin logical.length, run.IsInside logical[i] ∧ run.start < run.stop ∧
      run.direction = Direction.ofLevel logical[i].level := by
  obtain ⟨l, hl, hrun⟩ := List.mem_flatMap.mp hrun
  obtain ⟨i, hi, rfl⟩ := List.getElem_of_mem hl
  obtain ⟨hle, hsize⟩ := hlogical.within_units hl
  obtain ⟨hstart, hpos, hstop⟩ := (consecutive_runsIn lookup hle hsize).bounds hrun
  exact ⟨⟨i, hi⟩, ⟨hstart, hstop⟩, hpos, direction_of_mem_runsOfPieces hrun⟩

/-- The one run of a degraded line spans all units. -/
theorem tiles_degraded (hsize : 0 < t.units.size) : Run.Tiles t.units.size (degraded t).runs :=
  Run.tiles_of_consecutive hsize ⟨rfl, Run.start_lt_stop.mpr (Int.natCast_pos.mpr hsize),
    Int.zero_add _⟩

/-- Runs of logical runs have directions. -/
theorem not_isDegraded (hlogical : Bidi.LogicalRun.Follow 0 t.width logical) :
    (⟨t, logical.flatMap (runsIn lookup t.units)⟩ : Line).isDegraded = false := by
  rw [isDegraded, List.any_eq_false]
  intro run hrun hinvalid
  obtain ⟨i, -, -, hdirection⟩ := exists_isInside hlogical hrun
  rw [hdirection, Direction.ofLevel] at hinvalid
  split at hinvalid <;> exact absurd hinvalid (by decide)

/-- A divided line is degraded if and only if its analysis failed. -/
theorem exists_isDegraded_iff (lookup : Lookup) (ctx : Bidi.Context) {source : Source}
    (fault : Option Text) (h : source.checked = .ok t) :
    ∃ line, (divide lookup ctx source fault).2 = .ok line ∧
      (line.isDegraded = true ↔ ∃ e, (ctx.analyse t fault).2 = .error e) := by
  refine ⟨_, divide_eq lookup ctx fault h, ?_⟩
  rw [Bidi.Context.analyse_eq_match]
  cases hlevels : (Bidi.resolveText t fault).levels with
  | error cause => exact iff_of_true rfl ⟨_, rfl⟩
  | ok levels =>
    refine iff_of_false ?_ ?_
    · rw [not_isDegraded (Bidi.follow_logicalRuns (Bidi.length_levels hlevels))]
      exact Bool.false_ne_true
    · rintro ⟨e, herror⟩
      cases herror

/-- A source that is a line is divided without breaking a promise, whatever the lookup answers, the
context went through and the analysis comes to. Its runs tile its units. If it was analysed, each
run lies inside exactly one logical run and has the direction of its level; if not, it is one run
that has no script and no direction. The line is degraded only in the second case. -/
theorem divide_tiles (lookup : Lookup) (ctx : Bidi.Context) {source : Source} {t : Text}
    (fault : Option Text) (h : source.checked = .ok t) :
    ∃ line, (divide lookup ctx source fault).2 = .ok line ∧ line.text = t ∧
      Run.Tiles t.units.size line.runs ∧
      match (ctx.analyse t fault).2 with
      | .error cause =>
        (∃ failure, cause = .failed failure) ∧ line.isDegraded = true ∧
          line.runs = [⟨0, t.units.size, "Zzzz", .invalid⟩]
      | .ok logical =>
        line.isDegraded = false ∧ ∀ run ∈ line.runs, ∃ i : Fin logical.length,
          run.IsInside logical[i] ∧ (∀ j : Fin logical.length, run.IsInside logical[j] → j = i) ∧
          run.direction = if logical[i].level % 2 = 1 then .rightToLeft else .leftToRight := by
  have hsize : 0 < t.units.size := by
    rw [Text.size_units, Text.width_pos_iff]
    exact Source.ne_nil_of_checked h
  refine ⟨_, divide_eq lookup ctx fault h, ?_⟩
  rw [Bidi.Context.analyse_eq_match]
  cases hlevels : (Bidi.resolveText t fault).levels with
  | error cause =>
    -- one run over everything
    exact ⟨rfl, tiles_degraded hsize, ⟨cause, rfl⟩, rfl, rfl⟩
  | ok levels =>
    have hlogical := Bidi.follow_logicalRuns (Bidi.length_levels hlevels)
    obtain ⟨-, htiles⟩ := ofLogicalRuns_eq lookup hlogical
    refine ⟨rfl, ?_, not_isDegraded hlogical, ?_⟩
    · rw [Text.size_units] at hsize ⊢
      exact Run.tiles_of_consecutive hsize htiles
    · intro run hrun
      obtain ⟨i, hinside, hpos, hdirection⟩ := exists_isInside hlogical hrun
      exact ⟨i, hinside, fun j hj => Run.IsInside.index_unique hlogical hpos hj hinside, hdirection⟩

/-- Two surrogates that read as one astral letter, a letter between embedding controls, a mark. -/
def surrogates : Text :=
  [0x61, 0x1D400, 0xD800, 0xDC00, 0x202B, 0x5D0, 0x301, 0x202C, 0x2F]

/-- Such a line with a lookup that fails at the letter, analysed and after a fault. -/
theorem divide_surrogates_tiles :
    (∃ line, (divide (Script.Lookup.standard.changed [(0x5D0, none)]) .fresh
        (.text surrogates) none).2 = .ok line ∧
      Run.Tiles 10 line.runs ∧ line.isDegraded = false) ∧
    (∃ line, (divide (Script.Lookup.standard.changed [(0x5D0, none)]) .fresh
        (.text surrogates) (some "lost")).2 = .ok line ∧
      line.runs = [⟨0, 10, "Zzzz", .invalid⟩] ∧ line.isDegraded = true) := by
  have hchecked : Source.checked (.text surrogates) = .ok surrogates := by decide
  have hsize : surrogates.units.size = 10 := by decide
  refine ⟨?_, ?_⟩
  · have hanalyse : (Bidi.Context.fresh.analyse surrogates none).2 =
        .ok [⟨0, 6, 0⟩, ⟨6, 9, 1⟩, ⟨9, 10, 0⟩] := by decide +kernel
    have htiles := divide_tiles (Script.Lookup.standard.changed [(0x5D0, none)]) .fresh none
      hchecked
    rw [hanalyse, hsize] at htiles
    obtain ⟨line, hline, -, htiles, hdegraded, -⟩ := htiles
    exact ⟨line, hline, htiles, hdegraded⟩
  · have hanalyse : (Bidi.Context.fresh.analyse surrogates (some "lost")).2 =
        .error (.failed (.fault "lost")) := by decide +kernel
    have htiles := divide_tiles (Script.Lookup.standard.changed [(0x5D0, none)]) .fresh
      (some "lost") hchecked
    rw [hanalyse, hsize] at htiles
    obtain ⟨line, hline, -, -, -, hdegraded, hruns⟩ := htiles
    exact ⟨line, hline, hruns, hdegraded⟩

end Line

end LineRuns
