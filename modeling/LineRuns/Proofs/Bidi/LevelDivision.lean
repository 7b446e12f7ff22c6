import LineRuns.Proofs.Bidi.LevelPieces

/-!
# Logical runs are the division of a text by level

What a division by level is can be said without how it is found: runs that go through the units of
a text from its start to its end, of which neighbours have different levels, and in which every
character lies as a whole, at its own level. There is one such division for given levels
(`IsDivision.unique`), because two of them agree at every unit and so cannot stop at different
places. The logical runs of a text are this division.
-/

namespace LineRuns

/-- Each unit of a text belongs to a character. -/
theorem Text.exists_of_lt_width {t : Text} {p : Nat} (hp : p < t.width) :
    ∃ before c rest, t = before ++ c :: rest ∧ width before ≤ p ∧ p < width before + c.width := by
  induction t generalizing p with
  | nil => exact absurd hp (Nat.not_lt_zero p)
  | cons c t ih =>
    rw [width_cons] at hp
    rcases Nat.lt_or_ge p c.width with hlt | hge
    · exact ⟨[], c, t, rfl, Nat.zero_le p, by simpa using hlt⟩
    · obtain ⟨before, d, rest, rfl, hfrom, hto⟩ := ih (p := p - c.width) (by omega)
      refine ⟨c :: before, d, rest, rfl, ?_, ?_⟩ <;> rw [width_cons] <;> omega

namespace Bidi

/-- Runs that divide a text by the levels of its characters: none is empty, the first starts at
zero, each starts where the one before it stops and has another level, the last stops at the end of
the units, and the units of each character lie in a run of its level. Only the empty text has no
runs. -/
structure IsDivision (t : Text) (levels : List Nat) (runs : List LogicalRun) : Prop where
  eq_nil_iff : runs = [] ↔ t = []
  first : ∀ run ∈ runs.head?, run.start = 0
  positive : ∀ run ∈ runs, run.start < run.stop
  continued : runs.IsChain fun l r => r.start = l.stop
  last : ∀ run ∈ runs.getLast?, run.stop = t.units.size
  alternate : runs.IsChain fun l r => l.level ≠ r.level
  covers : ∀ (before : Text) (c : CodePoint) (rest : Text), t = before ++ c :: rest →
    ∃ run ∈ runs, run.start ≤ before.width ∧ before.width + c.width ≤ run.stop ∧
      levels[before.length]? = some run.level

variable {t : Text} {levels : List Nat} {runs others : List LogicalRun} {x y : LogicalRun}
  {a b p : Nat}

/-! ## Runs that agree unit by unit -/

/-- A unit of a run. -/
def LogicalRun.Holds (run : LogicalRun) (p : Nat) : Prop :=
  run.start ≤ p ∧ p < run.stop

namespace LogicalRun.Follow

/-- A unit lies in one run only. -/
theorem eq_of_holds (h : Follow a b runs) (hx : x ∈ runs) (hy : y ∈ runs) (hxp : x.Holds p)
    (hyp : y.Holds p) : x = y := by
  obtain ⟨i, hi, rfl⟩ := List.getElem_of_mem hx
  obtain ⟨j, hj, rfl⟩ := List.getElem_of_mem hy
  have hsame : (⟨i, hi⟩ : Fin runs.length) = ⟨j, hj⟩ :=
    Consecutive.index_unique h (Int.lt_succ p) ⟨Int.ofNat_le.mpr hxp.1, Int.ofNat_lt.mpr hxp.2⟩
      ⟨Int.ofNat_le.mpr hyp.1, Int.ofNat_lt.mpr hyp.2⟩
  cases hsame
  rfl

/-- Of two divisions that agree at every unit, the first run of one does not stop before the first
run of the other: the run after it would have the same level. -/
theorem stop_le (hx : Follow a b (x :: runs)) (hy : Follow a b (y :: others))
    (halternate : (x :: runs).IsChain fun l r => l.level ≠ r.level)
    (hagree : ∀ l ∈ x :: runs, ∀ p, l.Holds p → y.Holds p → l.level = y.level) :
    y.stop ≤ x.stop := by
  obtain ⟨hxstart, hxpos, hxrest⟩ := hx
  obtain ⟨hystart, -, hyrest⟩ := hy
  have hyle := hyrest.le
  simp only at hxstart hxpos hystart hyle
  by_contra hlt
  cases runs with
  | nil =>
    -- the only run goes to the end
    have hend : (x.stop : Int) = b := hxrest
    omega
  | cons next more =>
    obtain ⟨hnstart, hnpos, -⟩ := hxrest
    simp only at hnstart hnpos
    have hfirst : x.level = y.level :=
      hagree x List.mem_cons_self a ⟨by omega, by omega⟩ ⟨by omega, by omega⟩
    have hnext : next.level = y.level :=
      hagree next (List.mem_cons_of_mem x List.mem_cons_self) x.stop ⟨by omega, by omega⟩
        ⟨by omega, by omega⟩
    exact (List.isChain_cons_cons.mp halternate).1 (hfirst.trans hnext.symm)

/-- Runs from one position to another, with levels that differ from neighbour to neighbour, are
given by the level of each unit. -/
theorem eq_of_agree (hx : Follow a b runs) (hy : Follow a b others)
    (hxalternate : runs.IsChain fun l r => l.level ≠ r.level)
    (hyalternate : others.IsChain fun l r => l.level ≠ r.level)
    (hagree : ∀ l ∈ runs, ∀ r ∈ others, ∀ p, l.Holds p → r.Holds p → l.level = r.level) :
    runs = others := by
  induction runs generalizing a others with
  | nil =>
    obtain rfl : a = b := Int.ofNat_inj.mp hx
    exact hy.eq_nil.symm
  | cons x xs ih =>
    cases others with
    | nil =>
      obtain rfl : a = b := Int.ofNat_inj.mp hy
      exact hx.eq_nil
    | cons y ys =>
      have hyx : y.stop ≤ x.stop :=
        stop_le hx hy hxalternate fun l hl => hagree l hl y List.mem_cons_self
      have hxy : x.stop ≤ y.stop :=
        stop_le hy hx hyalternate fun r hr p hrp hxp =>
          (hagree x List.mem_cons_self r hr p hxp hrp).symm
      have hstop : x.stop = y.stop := Nat.le_antisymm hxy hyx
      obtain ⟨hxstart, hxpos, hxrest⟩ := hx
      obtain ⟨hystart, hypos, hyrest⟩ := hy
      simp only at hxstart hxpos hystart hypos
      have hstart : x.start = y.start := by omega
      have hlevel : x.level = y.level :=
        hagree x List.mem_cons_self y List.mem_cons_self x.start ⟨by omega, by omega⟩
          ⟨by omega, by omega⟩
      obtain rfl : x = y := by
        cases x
        cases y
        simp only at hstart hstop hlevel
        rw [hstart, hstop, hlevel]
      rw [ih hxrest hyrest hxalternate.tail hyalternate.tail fun l hl r hr =>
        hagree l (List.mem_cons_of_mem x hl) r (List.mem_cons_of_mem x hr)]

end LogicalRun.Follow

/-! ## Divisions -/

namespace IsDivision

theorem follow (h : IsDivision t levels runs) : LogicalRun.Follow 0 t.width runs := by
  refine Consecutive.of_isChain ?_ ?_ ?_ ?_ ?_
  · intro hnil
    rw [h.eq_nil_iff.mp hnil]
    rfl
  · exact fun run hrun => Int.natCast_eq_zero.mpr (h.first run hrun)
  · exact fun run hrun => Int.ofNat_lt.mpr (h.positive run hrun)
  · exact h.continued.imp fun l r hmeet => congrArg Int.ofNat hmeet
  · intro run hrun
    rw [h.last run hrun, Text.size_units]

theorem of_follow (h : LogicalRun.Follow 0 t.width runs)
    (halternate : runs.IsChain fun l r => l.level ≠ r.level)
    (hcovers : ∀ (before : Text) (c : CodePoint) (rest : Text), t = before ++ c :: rest →
      ∃ run ∈ runs, run.start ≤ before.width ∧ before.width + c.width ≤ run.stop ∧
        levels[before.length]? = some run.level) : IsDivision t levels runs where
  eq_nil_iff := by
    constructor
    · rintro rfl
      have hzero : (0 : Int) = t.width := h
      by_contra hne
      have hpos := Text.width_pos_iff.mpr hne
      omega
    · rintro rfl
      exact h.eq_nil
  first run hrun := by
    obtain ⟨more, rfl⟩ := List.head?_eq_some_iff.mp hrun
    exact Int.ofNat_inj.mp h.1
  positive run hrun := Int.ofNat_lt.mp (h.bounds hrun).2.1
  continued := h.isChain.imp fun l r hmeet => Int.ofNat_inj.mp hmeet
  last run hrun := by
    have hstop := h.getLast?_stop (List.ne_nil_of_mem (List.mem_of_getLast? hrun))
    rw [Option.mem_def.mp hrun] at hstop
    rw [Text.size_units]
    exact Int.ofNat_inj.mp (Option.some.inj hstop)
  alternate := halternate
  covers := hcovers

/-- The level of a run is that of each character that has a unit in it. -/
theorem level_eq {before rest : Text} {c : CodePoint}
    (h : IsDivision (before ++ c :: rest) levels runs) (hx : x ∈ runs) (hxp : x.Holds p)
    (hp : before.width ≤ p ∧ p < before.width + c.width) :
    levels[before.length]? = some x.level := by
  obtain ⟨run, hrun, hstart, hstop, hlevel⟩ := h.covers before c rest rfl
  have hsame := h.follow.eq_of_holds hx hrun hxp ⟨by omega, by omega⟩
  rw [hsame, hlevel]

/-- There is one division of a text by given levels. -/
theorem unique (h : IsDivision t levels runs) (h' : IsDivision t levels others) :
    others = runs := by
  refine h'.follow.eq_of_agree h.follow h'.alternate h.alternate fun l hl r hr p hlp hrp => ?_
  have hp : p < t.width := by
    obtain ⟨-, -, hstop⟩ := h'.follow.bounds hl
    have hlt := hlp.2
    omega
  obtain ⟨before, c, rest, rfl, hinside⟩ := Text.exists_of_lt_width hp
  have hlevel := h'.level_eq hl hlp hinside
  rw [h.level_eq hr hrp hinside] at hlevel
  exact (Option.some.inj hlevel).symm

end IsDivision

theorem map_level_spans (start : Nat) (pieces : List (Text × Nat)) :
    (spans start pieces).map LogicalRun.level = pieces.map Prod.snd := by
  induction pieces generalizing start with
  | nil => rfl
  | cons p rest ih => rw [spans, List.map_cons, List.map_cons, ih]

/-- Neighbouring logical runs have different levels. -/
theorem isChain_logicalRuns (t : Text) (levels : List Nat) :
    (logicalRuns t levels).IsChain fun l r => l.level ≠ r.level := by
  have hpieces := isChain_levelPieces (t.zip levels)
  rw [logicalRuns, ofLevels_eq_spans]
  rw [← List.isChain_map Prod.snd (R := (· ≠ ·)), ← map_level_spans 0] at hpieces
  exact (List.isChain_map LogicalRun.level).mp hpieces

/-- The logical runs of a text divide it by the given levels. -/
theorem isDivision_logicalRuns (h : levels.length = t.length) :
    IsDivision t levels (logicalRuns t levels) := by
  refine .of_follow (follow_logicalRuns h) (isChain_logicalRuns t levels) ?_
  rintro before c rest rfl
  rw [List.length_append, List.length_cons] at h
  have hlt : before.length < levels.length := by omega
  obtain ⟨l, hl, hlevel, hstart, hstop⟩ :=
    exists_logicalRun before c rest (List.getElem?_eq_getElem hlt)
  exact ⟨l, hl, hstart, hstop, hlevel ▸ List.getElem?_eq_getElem hlt⟩

/-! ## Analyses -/

/-- An analysis whose levels are resolved gives the division of the text by these levels, and there
is no other one. None of the runs that it comes to is ever empty: an analysis fails only where its
levels could not be resolved. -/
theorem analyse_divides (ctx : Context) (t : Text) (fault : Option Text) :
    (∀ run, (ctx.analyse t fault).2 ≠ .error (.emptyRun run)) ∧
    match ctx.levels t fault with
    | .error cause => (ctx.analyse t fault).2 = .error (.failed cause)
    | .ok levels => ∃ runs, (ctx.analyse t fault).2 = .ok runs ∧ IsDivision t levels runs ∧
        ∀ others, IsDivision t levels others → others = runs := by
  rw [ctx.analyse_eq_match, ctx.levels_eq]
  cases hlevels : (resolveText t fault).levels with
  | error cause =>
    refine ⟨?_, rfl⟩
    rintro run ⟨⟩
  | ok levels =>
    have hdivision := isDivision_logicalRuns (length_levels hlevels)
    refine ⟨?_, _, rfl, hdivision, fun others => hdivision.unique⟩
    rintro run ⟨⟩

end Bidi

end LineRuns
