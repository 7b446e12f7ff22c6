import LineRuns.Proofs.Bidi.Storage
import LineRuns.Proofs.Tiling
import LineRuns.Text.Units

/-!
# Logical runs that tile a text

Characters with positive widths fall into logical runs that follow one another and are not empty,
and the units of each character lie in a run at its level (`exists_logicalRun`). The levels that
the stages of an analysis come to are those of the resolution (`Context.levels_eq`). So the check
for empty runs accepts whatever levels were resolved, and an analysis fails only where its levels
could not be resolved (`analyse_eq_match`).
-/

namespace LineRuns.Bidi

namespace LogicalRun

/-- Logical runs that follow one another from one position to another. -/
def Follow (a b : Nat) (runs : List LogicalRun) : Prop :=
  Consecutive (fun run : LogicalRun => (run.start : Int)) (fun run => (run.stop : Int)) a b runs

/-- Runs with a character in front, from `start` to `stop`: it joins the first run if it has its
level. -/
def grow (start stop level : Nat) : List LogicalRun → List LogicalRun
  | [] => [⟨start, stop, level⟩]
  | run :: more =>
    if run.level = level then ⟨start, run.stop, level⟩ :: more
    else ⟨start, stop, level⟩ :: run :: more

theorem ofLevels_cons (start width level : Nat) (chars : List (Nat × Nat)) :
    ofLevels start ((width, level) :: chars) =
      grow start (start + width) level (ofLevels (start + width) chars) := by
  rw [ofLevels]
  cases ofLevels (start + width) chars <;> rfl

theorem follow_ofLevels {chars : List (Nat × Nat)} (hpos : ∀ p ∈ chars, 0 < p.1) (start : Nat) :
    Follow start (start + chars.foldr (fun p n => p.1 + n) 0) (ofLevels start chars) := by
  induction chars generalizing start with
  | nil => rfl
  | cons p rest ih =>
    obtain ⟨width, level⟩ := p
    have hwidth : 0 < width := hpos (width, level) List.mem_cons_self
    have hrest := ih (fun q hq => hpos q (List.mem_cons_of_mem _ hq)) (start + width)
    rw [List.foldr_cons, ← Nat.add_assoc, ofLevels_cons]
    cases hruns : ofLevels (start + width) rest with
    | nil =>
      rw [hruns] at hrest
      exact ⟨rfl, by simp only; omega, hrest⟩
    | cons run more =>
      rw [hruns] at hrest
      rw [grow]
      split
      · -- the first run grows by a character in front
        obtain ⟨hstart, hlt, hmore⟩ := hrest
        refine ⟨rfl, ?_, hmore⟩
        simp only at hstart hlt ⊢
        omega
      · exact ⟨rfl, by simp only; omega, hrest⟩

/-- A character in front is in the first run. -/
theorem exists_mem_grow (level : Nat) {start stop b : Nat} {runs : List LogicalRun}
    (h : Follow stop b runs) :
    ∃ run ∈ grow start stop level runs, run.level = level ∧ run.start = start ∧
      stop ≤ run.stop := by
  cases runs with
  | nil => exact ⟨_, List.mem_cons_self, rfl, rfl, Nat.le_refl _⟩
  | cons run more =>
    obtain ⟨hstart, hlt, -⟩ := h
    rw [grow]
    split
    · refine ⟨_, List.mem_cons_self, rfl, rfl, ?_⟩
      simp only at hstart hlt ⊢
      omega
    · exact ⟨_, List.mem_cons_self, rfl, rfl, Nat.le_refl _⟩

/-- What lies in a run still does when another character stands in front. -/
theorem exists_mem_grow_of_mem {start stop level a b : Nat} {runs : List LogicalRun}
    {run : LogicalRun} (h : Follow a b runs) (hle : start ≤ a) (hrun : run ∈ runs) :
    ∃ run' ∈ grow start stop level runs, run'.level = run.level ∧ run'.start ≤ run.start ∧
      run'.stop = run.stop := by
  have hstart := (h.bounds hrun).1
  cases runs with
  | nil => cases hrun
  | cons first more =>
    rw [grow]
    split
    · rename_i hsame
      rcases List.mem_cons.mp hrun with rfl | hrun
      · refine ⟨_, List.mem_cons_self, hsame.symm, ?_, rfl⟩
        simp only
        omega
      · exact ⟨run, List.mem_cons_of_mem _ hrun, rfl, Nat.le_refl _, rfl⟩
    · exact ⟨run, List.mem_cons_of_mem _ hrun, rfl, Nat.le_refl _, rfl⟩

/-- The units of a character lie in a run of its level. -/
theorem exists_covering {before chars : List (Nat × Nat)} {width level : Nat}
    (hpos : ∀ p ∈ before ++ (width, level) :: chars, 0 < p.1) (start : Nat) :
    ∃ run ∈ ofLevels start (before ++ (width, level) :: chars), run.level = level ∧
      run.start ≤ start + before.foldr (fun p n => p.1 + n) 0 ∧
      start + before.foldr (fun p n => p.1 + n) 0 + width ≤ run.stop := by
  induction before generalizing start with
  | nil =>
    have hfollow := follow_ofLevels (fun q hq => hpos q (List.mem_cons_of_mem _ hq)) (start + width)
    obtain ⟨run, hrun, hlevel, hstart, hstop⟩ := exists_mem_grow level hfollow
    rw [List.nil_append, ofLevels_cons]
    exact ⟨run, hrun, hlevel, hstart.le, hstop⟩
  | cons p before ih =>
    obtain ⟨first, level'⟩ := p
    have hpos' : ∀ q ∈ before ++ (width, level) :: chars, 0 < q.1 :=
      fun q hq => hpos q (List.mem_cons_of_mem _ hq)
    obtain ⟨run, hrun, hlevel, hstart, hstop⟩ := ih hpos' (start + first)
    have hfollow := follow_ofLevels hpos' (start + first)
    obtain ⟨run', hrun', hlevel', hstart', hstop'⟩ :=
      exists_mem_grow_of_mem hfollow (Nat.le_add_right start first) hrun
    rw [List.cons_append, ofLevels_cons, List.foldr_cons, ← Nat.add_assoc]
    exact ⟨run', hrun', hlevel'.trans hlevel, hstart'.trans hstart, hstop' ▸ hstop⟩

/-- Logical runs that tile a text lie within its units. -/
theorem Follow.within_units {t : Text} {runs : List LogicalRun} (h : Follow 0 t.width runs)
    {l : LogicalRun} (hl : l ∈ runs) : l.start ≤ l.stop ∧ l.stop ≤ t.units.size := by
  have hbounds := h.bounds hl
  rw [Text.size_units]
  omega

end LogicalRun

/-- The logical runs of a text at the given levels. -/
def logicalRuns (t : Text) (levels : List Nat) : List LogicalRun :=
  LogicalRun.ofLevels 0 ((t.zip levels).map fun p => (p.1.width, p.2))

theorem length_levels {t : Text} {fault : Option Text} {levels : List Nat}
    (h : (resolveText t fault).levels = .ok levels) : levels.length = t.length := by
  obtain ⟨-, -, rfl⟩ := levels_resolve_eq_ok_iff.mp h
  rw [length_inherit, placesOf, length_places, List.length_map, List.length_map]

/-- The levels that the stages of an analysis come to, one for each character. -/
def Context.levels (ctx : Context) (t : Text) (fault : Option Text) :
    Except LevelFailure (List Nat) :=
  (ctx.reset.storage.resolve t fault).2.map (List.map Prod.snd)

/-- They are those of the resolution, whatever the context went through before. -/
theorem Context.levels_eq (ctx : Context) (t : Text) (fault : Option Text) :
    ctx.levels t fault = (resolveText t fault).levels := by
  rw [levels, reset, Storage.clear_eq, Storage.resolve_empty]
  cases hlevels : (resolveText t fault).levels with
  | error cause => rfl
  | ok levels => exact congrArg Except.ok (List.map_snd_zip (length_levels hlevels).le)

/-- The characters of a text with their levels have positive widths. -/
theorem widths_pos (t : Text) (levels : List Nat) :
    ∀ p ∈ (t.zip levels).map fun p => (p.1.width, p.2), 0 < p.1 := by
  intro p hp
  obtain ⟨q, -, rfl⟩ := List.mem_map.mp hp
  exact q.1.width_pos

/-- Together they are as wide as the text. -/
theorem sum_widths {t : Text} {levels : List Nat} (h : levels.length = t.length) :
    ((t.zip levels).map fun p => (p.1.width, p.2)).foldr (fun p n => p.1 + n) 0 = t.width := by
  have hfst : (t.zip levels).map Prod.fst = t := List.map_fst_zip h.ge
  rw [List.foldr_map, Text.width]
  conv_rhs => rw [← hfst, List.foldr_map]

/-- The logical runs of a text tile its units. -/
theorem follow_logicalRuns {t : Text} {levels : List Nat} (h : levels.length = t.length) :
    LogicalRun.Follow 0 t.width (logicalRuns t levels) := by
  have hfollow := LogicalRun.follow_ofLevels (widths_pos t levels) 0
  rwa [sum_widths h, Nat.zero_add] at hfollow

/-- The units of a character lie in a logical run at its level. -/
theorem exists_logicalRun (before : Text) (c : CodePoint) (rest : Text) {levels : List Nat}
    {level : Nat} (hlevel : levels[before.length]? = some level) :
    ∃ l ∈ logicalRuns (before ++ c :: rest) levels, l.level = level ∧ l.start ≤ before.width ∧
      before.width + c.width ≤ l.stop := by
  obtain ⟨hlt, hget⟩ := List.getElem?_eq_some_iff.mp hlevel
  have hlevels : levels =
      levels.take before.length ++ level :: levels.drop (before.length + 1) := by
    rw [← hget, ← List.drop_eq_getElem_cons hlt, List.take_append_drop]
  have htake : (levels.take before.length).length = before.length := by
    rw [List.length_take, Nat.min_eq_left hlt.le]
  have hzip : ((before ++ c :: rest).zip levels).map (fun p => (p.1.width, p.2)) =
      ((before.zip (levels.take before.length)).map fun p => (p.1.width, p.2)) ++
        (c.width, level) ::
          ((rest.zip (levels.drop (before.length + 1))).map fun p => (p.1.width, p.2)) := by
    conv_lhs => rw [hlevels]
    rw [List.zip_append htake.symm, List.zip_cons_cons, List.map_append, List.map_cons]
  have hpos := widths_pos (before ++ c :: rest) levels
  rw [hzip] at hpos
  obtain ⟨l, hl, hsame, hstart, hstop⟩ := LogicalRun.exists_covering hpos 0
  rw [sum_widths htake, Nat.zero_add] at hstart hstop
  rw [logicalRuns, hzip]
  exact ⟨l, hl, hsame, hstart, hstop⟩

/-- No logical run is empty, so the check for these passes. -/
theorem runsOfLevels_zip {t : Text} {levels : List Nat} (h : levels.length = t.length) :
    runsOfLevels (t.zip levels) = .ok (logicalRuns t levels) := by
  have hnone : ((logicalRuns t levels).find? fun run => run.stop ≤ run.start) = none := by
    rw [List.find?_eq_none]
    intro run hrun hempty
    have hlt := ((follow_logicalRuns h).bounds hrun).2.1
    have hle := of_decide_eq_true hempty
    omega
  rw [logicalRuns] at hnone
  rw [runsOfLevels, logicalRuns]
  simp only [hnone]

/-- An analysis gives the logical runs of the resolved levels, or fails with what the resolution
failed with. -/
theorem Context.analyse_eq_match (ctx : Context) (t : Text) (fault : Option Text) :
    (ctx.analyse t fault).2 = match (resolveText t fault).levels with
      | .error cause => .error (.failed cause)
      | .ok levels => .ok (logicalRuns t levels) := by
  rw [analyse_eq]
  cases hlevels : (resolveText t fault).levels with
  | error cause => rfl
  | ok levels => exact runsOfLevels_zip (length_levels hlevels)

theorem Context.exists_levels_of_analyse {ctx : Context} {t : Text} {fault : Option Text}
    {logical : List LogicalRun} (h : (ctx.analyse t fault).2 = .ok logical) :
    ∃ levels, (resolveText t fault).levels = .ok levels ∧ logical = logicalRuns t levels := by
  rw [analyse_eq_match] at h
  cases hlevels : (resolveText t fault).levels with
  | error cause =>
    rw [hlevels] at h
    cases h
  | ok levels =>
    rw [hlevels] at h
    exact ⟨levels, rfl, (Except.ok.inj h).symm⟩

end LineRuns.Bidi
