import LineRuns.Line
import LineRuns.Proofs.Bidi.LogicalRun
import LineRuns.Proofs.Run.Tiling
import LineRuns.Proofs.Script.Segments
import LineRuns.Proofs.Text.Units

/-!
# What a division comes to

Between two positions the division by script goes on from stretch to stretch until it reaches the
end. It never stalls and never leaves the span: its runs are those of the pieces of the span's text
(`runsBetween_eq`), one run a piece. So a source that is a line is always divided, into the runs of
all its logical runs or into the one run of a line that could not be analysed (`divide_eq`).
-/

namespace LineRuns

open Script (Lookup common segments Longest)

variable {lookup : Lookup} {units : Array CodeUnit} {direction : Direction}

/-! ## Runs of pieces -/

/-- The runs of pieces of text that follow one another from `start`. -/
def runsOfPieces (lookup : Lookup) (direction : Direction) (start : Nat) : List Text → List Run
  | [] => []
  | p :: rest =>
    ⟨start, p.width, Script.tag (common lookup p).head?, direction⟩ ::
      runsOfPieces lookup direction (start + p.width) rest

theorem consecutive_runsOfPieces (lookup : Lookup) (direction : Direction) {pieces : List Text}
    (hne : ∀ p ∈ pieces, p ≠ []) (start : Nat) :
    Consecutive Run.start Run.stop start ((start + Text.width pieces.flatten : Nat) : Int)
      (runsOfPieces lookup direction start pieces) := by
  induction pieces generalizing start with
  | nil => rfl
  | cons p rest ih =>
    obtain ⟨hp, hrest⟩ := List.forall_mem_cons.mp hne
    have hwidth := Text.width_pos_iff.mpr hp
    have hmore := ih hrest (start + p.width)
    rw [Nat.add_assoc, ← Text.width_append, ← List.flatten_cons, Int.natCast_add] at hmore
    exact ⟨rfl, Run.start_lt_stop.mpr (by simpa using hwidth), hmore⟩

theorem direction_of_mem_runsOfPieces {pieces : List Text} {start : Nat} {run : Run}
    (h : run ∈ runsOfPieces lookup direction start pieces) : run.direction = direction := by
  induction pieces generalizing start with
  | nil => exact absurd h List.not_mem_nil
  | cons p rest ih =>
    rcases List.mem_cons.mp h with rfl | h
    · rfl
    · exact ih h

theorem map_script_runsOfPieces (pieces : List Text) (start : Nat) :
    (runsOfPieces lookup direction start pieces).map Run.script =
      pieces.map fun p => Script.tag (common lookup p).head? := by
  induction pieces generalizing start with
  | nil => rfl
  | cons p rest ih => rw [runsOfPieces, List.map_cons, List.map_cons, ih]

/-- The text of a run is the piece that it is the run of. -/
theorem map_ofUnits_runsOfPieces {pieces : List Text} {start stop : Nat} (hs : start ≤ stop)
    (h : stop ≤ units.size) (hpieces : Text.ofUnits units start (some stop) = pieces.flatten) :
    (runsOfPieces lookup direction start pieces).map
      (fun run => Text.ofUnits units run.start (some run.stop)) = pieces := by
  induction pieces generalizing start with
  | nil => rfl
  | cons p rest ih =>
    rw [List.flatten_cons] at hpieces
    obtain ⟨hle, hp, hrest⟩ := Text.ofUnits_split hs h hpieces
    rw [runsOfPieces, List.map_cons, ih hle hrest]
    rw [Int.natCast_add] at hp
    exact congrArg (· :: rest) hp

/-! ## Division by script -/

/-- The interval at a position inside is the first piece of the text from there. -/
theorem exists_interval_eq_ok (lookup : Lookup) {start stop : Nat} (hlt : start < stop)
    (h : stop ≤ units.size) :
    ∃ piece left, Text.ofUnits units start (some stop) = piece ++ left ∧ piece ≠ [] ∧
      Script.interval lookup units start (stop - start) =
        .ok ⟨piece.width, (common lookup piece).head?⟩ ∧
      segments lookup (Text.ofUnits units start (some stop)) =
        piece :: segments lookup left := by
  have hne : Text.ofUnits units start (some stop) ≠ [] := by
    rw [← Text.width_pos_iff, Text.width_ofUnits hlt.le h]
    omega
  obtain ⟨piece, left, heq, hpiece, hinterval, hsegments⟩ := Script.exists_interval_eq lookup hne
  refine ⟨piece, left, heq, hpiece, ?_, hsegments⟩
  have hstop : (start : Int) + (stop - start) = stop := by omega
  rw [Script.interval_eq_ok lookup (by omega) (by omega) (by omega), hstop, hinterval]

/-- The runs between two positions are the runs of the pieces of the text there. -/
theorem runsBetween_eq {start stop : Nat} (hs : start ≤ stop) (h : stop ≤ units.size) :
    runsBetween lookup units direction start stop =
      .ok (runsOfPieces lookup direction start
        (segments lookup (Text.ofUnits units start (some stop)))) := by
  -- on what is left of the span: each interval takes a piece that is not empty
  induction hn : stop - start using Nat.strongRecOn generalizing start with
  | _ n ih =>
    rw [runsBetween]
    split
    · rename_i hlt
      obtain ⟨piece, left, heq, hpiece, hfound, hsegments⟩ := exists_interval_eq_ok lookup hlt h
      obtain ⟨hle, hp, hleft⟩ := Text.ofUnits_split hs h heq
      have hpos := Text.width_pos_iff.mpr hpiece
      -- the division goes on where the piece stops, and the text left is the rest
      have hrest := ih (stop - (start + piece.width)) (by omega) hle rfl
      rw [hleft] at hrest
      simp only [hfound]
      rw [if_neg (by omega), hrest, hsegments]
      rfl
    · rename_i hge
      rw [Text.ofUnits_of_le (Nat.le_of_not_lt hge) h]
      rfl

/-- The runs of a logical run. -/
def runsIn (lookup : Lookup) (units : Array CodeUnit) (l : Bidi.LogicalRun) : List Run :=
  runsOfPieces lookup (Direction.ofLevel l.level) l.start
    (segments lookup (Text.ofUnits units l.start (some l.stop)))

/-- The runs of a logical run reach from its start to its stop. -/
theorem consecutive_runsIn (lookup : Lookup) {l : Bidi.LogicalRun} (hs : l.start ≤ l.stop)
    (h : l.stop ≤ units.size) :
    Consecutive Run.start Run.stop l.start l.stop (runsIn lookup units l) := by
  have hne : ∀ p ∈ segments lookup (Text.ofUnits units l.start (some l.stop)), p ≠ [] :=
    fun p hp => ((Script.longest_segments lookup _).homogeneous p hp).ne_nil
  have hruns := consecutive_runsOfPieces lookup (Direction.ofLevel l.level) hne l.start
  rw [Script.flatten_segments, Text.width_ofUnits hs h, Nat.add_sub_cancel' hs] at hruns
  exact hruns

theorem runsOfLogical_eq {logical : List Bidi.LogicalRun}
    (h : ∀ l ∈ logical, l.start ≤ l.stop ∧ l.stop ≤ units.size) :
    runsOfLogical lookup units logical = .ok (logical.flatMap (runsIn lookup units)) := by
  induction logical with
  | nil => rfl
  | cons l rest ih =>
    obtain ⟨⟨hs, hsize⟩, hrest⟩ := List.forall_mem_cons.mp h
    rw [runsOfLogical, runsBetween_eq hs hsize, ih hrest]
    rfl

/-- Every tag of a script is a name. -/
theorem Script.tag_mem_namedScripts (code : Option Script.Code) :
    Script.tag code ∈ Unicode.namedScripts := by
  have hunknown : Script.unknown ∈ Unicode.namedScripts := by decide
  cases code with
  | none => exact hunknown
  | some code =>
    rw [Script.tag]
    split
    · rename_i hnamed
      exact List.contains_iff_mem.mp hnamed
    · exact hunknown

namespace Line

/-- Logical runs that tile a text are divided into runs that tile it. -/
theorem ofLogicalRuns_eq (lookup : Lookup) {t : Text} {logical : List Bidi.LogicalRun}
    (h : Bidi.LogicalRun.Follow 0 t.width logical) :
    ofLogicalRuns lookup t logical = .ok ⟨t, logical.flatMap (runsIn lookup t.units)⟩ ∧
      Consecutive Run.start Run.stop 0 t.width (logical.flatMap (runsIn lookup t.units)) := by
  have hinside := fun l (hl : l ∈ logical) => h.within_units hl
  have htiles := Consecutive.flatMap h fun l hl =>
    consecutive_runsIn lookup (hinside l hl).1 (hinside l hl).2
  have hcheck : checkTiling ⟨t, logical.flatMap (runsIn lookup t.units)⟩ = .ok () := by
    rw [checkTiling, Run.checkTiling_eq_ok_iff, length, units, Text.size_units]
    exact htiles
  refine ⟨?_, htiles⟩
  rw [ofLogicalRuns, runsOfLogical_eq hinside]
  simp only [bind, Except.bind, hcheck]
  rfl

/-- A source that is a line is divided, whatever the lookup and the context: into the runs of its
logical runs, or into one run if its levels cannot be resolved. -/
theorem divide_eq (lookup : Lookup) (ctx : Bidi.Context) {source : Source} {t : Text}
    (fault : Option Text) (h : source.checked = .ok t) :
    (divide lookup ctx source fault).2 = .ok (match (Bidi.resolveText t fault).levels with
      | .error _ => degraded t
      | .ok levels => ⟨t, (Bidi.logicalRuns t levels).flatMap (runsIn lookup t.units)⟩) := by
  have hlogical := Bidi.Context.analyse_eq_match ctx t fault
  simp only [divide, h]
  rcases hanalyse : ctx.analyse t fault with ⟨ctx', logical⟩
  rw [hanalyse] at hlogical
  cases hlevels : (Bidi.resolveText t fault).levels with
  | error cause =>
    -- a failure of the analysis is no error of the division
    rw [hlevels] at hlogical
    simp only at hlogical
    subst hlogical
    rfl
  | ok levels =>
    rw [hlevels] at hlogical
    simp only at hlogical
    subst hlogical
    exact (ofLogicalRuns_eq lookup (Bidi.follow_logicalRuns (Bidi.length_levels hlevels))).1

theorem divide_of_levels (lookup : Lookup) (ctx : Bidi.Context) {source : Source} {t : Text}
    {fault : Option Text} {levels : List Nat} (h : source.checked = .ok t)
    (hlevels : (Bidi.resolveText t fault).levels = .ok levels) :
    (divide lookup ctx source fault).2 =
      .ok ⟨t, (Bidi.logicalRuns t levels).flatMap (runsIn lookup t.units)⟩ := by
  rw [divide_eq lookup ctx fault h, hlevels]

/-- The scripts of runs have names. -/
theorem script_mem_namedScripts (lookup : Lookup) (ctx : Bidi.Context) {source : Source} {t : Text}
    (fault : Option Text) (h : source.checked = .ok t) {line : Line}
    (hline : (divide lookup ctx source fault).2 = .ok line) :
    ∀ run ∈ line.runs, run.script ∈ Unicode.namedScripts := by
  rw [divide_eq lookup ctx fault h, Except.ok.injEq] at hline
  subst hline
  intro run hrun
  cases hlevels : (Bidi.resolveText t fault).levels with
  | error cause =>
    rw [hlevels] at hrun
    obtain rfl := List.mem_singleton.mp hrun
    exact Script.tag_mem_namedScripts none
  | ok levels =>
    rw [hlevels] at hrun
    obtain ⟨l, -, hrun⟩ := List.mem_flatMap.mp hrun
    have hscript := List.mem_map_of_mem (f := Run.script) hrun
    rw [runsIn, map_script_runsOfPieces] at hscript
    obtain ⟨piece, -, htag⟩ := List.mem_map.mp hscript
    exact htag ▸ Script.tag_mem_namedScripts _

end Line

end LineRuns
