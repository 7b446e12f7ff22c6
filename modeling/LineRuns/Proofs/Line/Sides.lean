import LineRuns.Proofs.Bidi.Sides
import LineRuns.Proofs.Line.CodePoints
import LineRuns.Proofs.Line.Failure

/-!
# Letters and digits on their own side

Embeddings decide how deep a letter or a digit lies and never which way it is read: without an
override, letters and digits that are read to the right come to even levels, letters that are read
to the left to odd ones. An override decides for all characters alike. The levels reach the runs of
a divided line as directions, and each character is in one run as a whole.
-/

namespace LineRuns

open Bidi (Context Embedding IsLeftward IsRightward)
open Script (Lookup)
open Unicode (bidiClass)

variable {t before rest : Text} {c : CodePoint} {levels : List Nat} {level : Nat}

/-! ## Levels of texts -/

theorem Bidi.exists_suits_text {fault : Option Text}
    (h : (resolveText (before ++ c :: rest) fault).levels = .ok levels)
    (hremoved : isRemoved (bidiClass c) = false) :
    ∃ level, levels[before.length]? = some level ∧
      Suits level (bidiClass c) (Embedding.behind (before ++ c :: rest) before).override := by
  rw [resolveText, List.map_append, List.map_cons] at h
  have hsuits := exists_suits h rfl hremoved
  rwa [List.length_map, ← List.map_cons, ← List.map_append] at hsuits

/-- The override that levels suit is the one that the initiators open in front of a character
leave. -/
theorem Bidi.exists_suits_under {fault : Option Text}
    (h : (resolveText (before ++ c :: rest) fault).levels = .ok levels)
    (hremoved : isRemoved (bidiClass c) = false) :
    ∃ level, levels[before.length]? = some level ∧
      Suits level (bidiClass c)
        (Embedding.under (baseLevel ((before ++ c :: rest).map bidiClass))
          ((before.map bidiClass).foldl Embedding.stillOpen [])).2 := by
  rw [← Embedding.behind_eq_under]
  exact exists_suits_text h hremoved

/-! ## Characters in runs -/

namespace Line

variable {line : Line} {logical : List Bidi.LogicalRun} {run : Run}

/-- A character is in one run as a whole: no run stops within its units. -/
theorem Reads.exists_run (h : line.Reads) (ht : line.text = before ++ c :: rest) :
    ∃ run ∈ line.runs, run.start ≤ before.width ∧
      ((before.width + c.width : Nat) : Int) ≤ run.stop := by
  have hlength : before.width + c.width ≤ line.length := by
    rw [length, units, Text.size_units, ht, Text.width_append, Text.width_cons]
    omega
  have hpos := c.width_pos
  obtain ⟨run, hrun, hstart, hstop⟩ :=
    h.tiles.exists_mem (Int.natCast_nonneg before.width) (Int.ofNat_lt.mpr (by omega))
  refine ⟨run, hrun, hstart, ?_⟩
  by_cases hastral : 0xFFFF < c.val
  · have hwidth : c.width = 2 := if_pos hastral
    have hunits := c.units_of_gt hastral
    have hlead : line.units[before.width]? = some c.lead := by
      have hget : (0 : Nat) < c.units.length := by simp [hunits]
      rw [units, ht, ← Nat.add_zero before.width, Text.getElem?_units hget, hunits]
      rfl
    have htrail : line.units[before.width + 1]? = some c.trail := by
      have hget : (1 : Nat) < c.units.length := by simp [hunits]
      rw [units, ht, Text.getElem?_units hget, hunits]
      rfl
    have hwithin : run.stop ≠ before.width + 1 := fun hstop =>
      h.not_isLead_isTrail hrun (.inr hstop) hlead htrail ⟨c.isLead_lead hastral, c.isTrail_trail⟩
    omega
  · have hwidth : c.width = 1 := if_neg hastral
    omega

/-- Where a run and a logical run overlap, the run has the direction of the level there. -/
theorem direction_eq {lookup : Lookup} (hlogical : Bidi.LogicalRun.Follow 0 t.width logical)
    (hrun : run ∈ logical.flatMap (runsIn lookup t.units)) {l : Bidi.LogicalRun}
    (hl : l ∈ logical) {p : Nat} (hp : run.start ≤ p ∧ (p : Int) < run.stop)
    (hp' : l.start ≤ p ∧ p < l.stop) : run.direction = Direction.ofLevel l.level := by
  obtain ⟨i, ⟨hstart, hstop⟩, -, hdirection⟩ := exists_isInside hlogical hrun
  obtain ⟨j, hj, rfl⟩ := List.getElem_of_mem hl
  have hsame : i = ⟨j, hj⟩ := by
    have hi : (logical[i].start : Int) ≤ p ∧ (p : Int) + 1 ≤ logical[i].stop := by omega
    have hj' : (logical[j].start : Int) ≤ p ∧ (p : Int) + 1 ≤ logical[j].stop := by omega
    exact Consecutive.index_unique hlogical (Int.lt_succ p) hi hj'
  rw [hdirection, hsame]
  rfl

/-- A run that a character begins in has the direction of a level that suits the character. -/
theorem exists_direction_suits {lookup : Lookup} {fault : Option Text}
    (h : (Bidi.resolveText (before ++ c :: rest) fault).levels = .ok levels)
    (hrun : run ∈ (Bidi.logicalRuns (before ++ c :: rest) levels).flatMap
      (runsIn lookup (Text.units (before ++ c :: rest))))
    (hp : run.start ≤ before.width ∧ (before.width : Int) < run.stop)
    (hremoved : Bidi.isRemoved (bidiClass c) = false) :
    ∃ level, run.direction = Direction.ofLevel level ∧
      Bidi.Suits level (bidiClass c) (Embedding.behind (before ++ c :: rest) before).override := by
  obtain ⟨level, hlevel, hsuits⟩ := Bidi.exists_suits_text h hremoved
  obtain ⟨l, hl, rfl, hfrom, hto⟩ := Bidi.exists_logicalRun before c rest hlevel
  have hpos := c.width_pos
  have hlogical := Bidi.follow_logicalRuns (Bidi.length_levels h)
  exact ⟨l.level, direction_eq hlogical hrun hl hp ⟨hfrom, by omega⟩, hsuits⟩

/-- Whatever the controls of a text do, however deep they nest and even where they find no room, a
text that is analysed has a level for every character that suits its class and the override in
effect. However its line is divided by script, each character is in one run as a whole, and
without an override this run goes to the right for left-to-right letters and digits, and to the
left for right-to-left letters. -/
theorem divide_natural_directions {ctx : Context} {fault : Option Text}
    (h : (ctx.analyse t fault).2 = .ok logical) :
    ∃ levels, (Bidi.resolveText t fault).levels = .ok levels ∧
      logical = Bidi.logicalRuns t levels ∧
      (∀ before c rest, t = before ++ c :: rest → Bidi.isRemoved (bidiClass c) = false →
        ∃ level, levels[before.length]? = some level ∧
          Bidi.Suits level (bidiClass c) (Embedding.behind t before).override) ∧
      ∀ (lookup : Lookup) (source : Source), source.checked = .ok t →
        ∃ line, (divide lookup ctx source fault).2 = .ok line ∧
          ∀ before c rest, t = before ++ c :: rest →
            ∃ run ∈ line.runs, run.start ≤ before.width ∧
              ((before.width + c.width : Nat) : Int) ≤ run.stop ∧
              ((Embedding.behind t before).override = none →
                (IsLeftward (bidiClass c) → run.direction = .leftToRight) ∧
                (IsRightward (bidiClass c) → run.direction = .rightToLeft)) := by
  obtain ⟨levels, hlevels, rfl⟩ := Context.exists_levels_of_analyse h
  refine ⟨levels, hlevels, rfl, ?_, ?_⟩
  · rintro before c rest rfl hremoved
    exact Bidi.exists_suits_text hlevels hremoved
  · intro lookup source hchecked
    refine ⟨_, divide_of_levels lookup ctx hchecked hlevels, ?_⟩
    rintro before c rest rfl
    obtain ⟨run, hrun, hstart, hstop⟩ := (reads_runsIn lookup hlevels).exists_run rfl
    have hpos := c.width_pos
    have hp : run.start ≤ before.width ∧ (before.width : Int) < run.stop := by omega
    refine ⟨run, hrun, hstart, hstop, fun hnone => ⟨?_, ?_⟩⟩
    · intro hleft
      obtain ⟨level, hlevel, hsuits⟩ :=
        exists_direction_suits hlevels hrun hp hleft.isRemoved_eq
      have heven := hsuits.leftward hnone hleft
      rw [hlevel, Direction.ofLevel, if_neg (by omega)]
    · intro hright
      obtain ⟨level, hlevel, hsuits⟩ :=
        exists_direction_suits hlevels hrun hp hright.isRemoved_eq
      rw [hlevel, Direction.ofLevel, if_pos (hsuits.rightward hnone hright)]

/-- A right-to-left line with an astral letter in an embedding and an overridden digit. -/
def nested : Text :=
  [0x5D0, 0x202A, 0x1D400, 0x202E, 0x31]

/-- The letters of such a line go their own ways, the astral one in one run, and the digit comes to
an odd level. -/
theorem divide_nested_natural_directions :
    ∃ levels, (Bidi.resolveText nested none).levels = .ok levels ∧
      (∃ level, levels[4]? = some level ∧ level % 2 = 1) ∧
      ∃ line, (divide .standard .fresh (.text nested) none).2 = .ok line ∧
        (∃ run ∈ line.runs, run.start ≤ 0 ∧ 1 ≤ run.stop ∧ run.direction = .rightToLeft) ∧
        ∃ run ∈ line.runs, run.start ≤ 2 ∧ 4 ≤ run.stop ∧ run.direction = .leftToRight := by
  have hanalyse : (Context.fresh.analyse nested none).2 =
      .ok [⟨0, 2, 1⟩, ⟨2, 5, 2⟩, ⟨5, 6, 3⟩] := by decide +kernel
  obtain ⟨levels, hlevels, -, hsuits, hdivide⟩ := divide_natural_directions hanalyse
  refine ⟨levels, hlevels, ?_, ?_⟩
  · obtain ⟨level, hlevel, hlast⟩ :=
      hsuits [0x5D0, 0x202A, 0x1D400, 0x202E] 0x31 [] rfl (by decide +kernel)
    exact ⟨level, hlevel, hlast.overriddenRight (by decide +kernel) (by decide +kernel)⟩
  · obtain ⟨line, hline, hruns⟩ := hdivide .standard (.text nested) (by decide)
    refine ⟨line, hline, ?_, ?_⟩
    · obtain ⟨run, hrun, hstart, hstop, hdirection⟩ :=
        hruns [] 0x5D0 [0x202A, 0x1D400, 0x202E, 0x31] rfl
      have hright : IsRightward (bidiClass 0x5D0) := .inl (by decide +kernel)
      exact ⟨run, hrun, hstart, hstop, (hdirection (by decide +kernel)).2 hright⟩
    · obtain ⟨run, hrun, hstart, hstop, hdirection⟩ :=
        hruns [0x5D0, 0x202A] 0x1D400 [0x202E, 0x31] rfl
      have hleft : IsLeftward (bidiClass 0x1D400) := .inl (by decide +kernel)
      exact ⟨run, hrun, hstart, hstop, (hdirection (by decide +kernel)).1 hleft⟩

end Line

end LineRuns
