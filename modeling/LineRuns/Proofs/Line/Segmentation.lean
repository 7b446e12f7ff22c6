import LineRuns.Proofs.Line.Tiling
import LineRuns.Proofs.Script.Extensions

/-!
# Runs inside a logical run

A division goes through the logical runs one by one, so that the runs inside a logical run are
those of its own text, read from the units. They divide this text into pieces that share a script
as well as can be done, whatever the lookup answers; and where it gives named codes, the tags say
so.
-/

namespace LineRuns

open Script (Lookup)

namespace Line

/-- The runs of a line that lie inside a logical run. -/
def runsInside (line : Line) (l : Bidi.LogicalRun) : List Run :=
  line.runs.filter fun run => run.IsInside l

variable {lookup : Lookup} {t : Text} {logical : List Bidi.LogicalRun} {l : Bidi.LogicalRun}

/-- Of the runs of all logical runs, those inside one are the runs that it was divided into. -/
theorem runsInside_flatMap (hlogical : Bidi.LogicalRun.Follow 0 t.width logical)
    (hl : l ∈ logical) :
    runsInside ⟨t, logical.flatMap (runsIn lookup t.units)⟩ l = runsIn lookup t.units l := by
  refine Consecutive.filter_flatMap hlogical (fun x hx => ?_) hl
  obtain ⟨hle, hsize⟩ := hlogical.within_units hx
  exact consecutive_runsIn lookup hle hsize

/-- The texts of the runs of a logical run are the pieces of its text. -/
theorem map_runText_runsIn {runs : List Run} (hs : l.start ≤ l.stop) (h : l.stop ≤ t.units.size) :
    (runsIn lookup t.units l).map (runText ⟨t, runs⟩) =
      Script.segments lookup (Text.ofUnits t.units l.start (some l.stop)) :=
  map_ofUnits_runsOfPieces hs h (Script.flatten_segments lookup _).symm

/-- The script of a run is the tag of its text. -/
theorem script_of_mem_runsIn {runs : List Run} {run : Run} (hs : l.start ≤ l.stop)
    (h : l.stop ≤ t.units.size) (hrun : run ∈ runsIn lookup t.units l) :
    run.script = Script.tag (Script.common lookup (runText ⟨t, runs⟩ run)).head? := by
  have hscripts : (runsIn lookup t.units l).map Run.script =
      ((runsIn lookup t.units l).map (runText ⟨t, runs⟩)).map
        fun p => Script.tag (Script.common lookup p).head? := by
    rw [map_runText_runsIn hs h, runsIn, map_script_runsOfPieces]
  rw [List.map_map, List.map_inj_left] at hscripts
  exact hscripts run hrun

/-- Where the lookup gives named codes at the code points of a logical run, its runs have scripts
of their code points, and neighbours have different scripts. -/
theorem scripts_runsIn {runs : List Run} (hs : l.start ≤ l.stop) (h : l.stop ≤ t.units.size)
    (hnamed : ∀ c ∈ Text.ofUnits t.units l.start (some l.stop), Script.IsNamed lookup c) :
    (∀ run ∈ runsIn lookup t.units l, ∀ c ∈ runText ⟨t, runs⟩ run,
      Script.Admits lookup run.script c) ∧
    (runsIn lookup t.units l).IsChain fun a b => a.script ≠ b.script := by
  have hpieces := Script.longest_segments lookup (Text.ofUnits t.units l.start (some l.stop))
  rw [← Script.flatten_segments lookup (Text.ofUnits t.units l.start (some l.stop))] at hnamed
  constructor
  · -- a tag is a script that is left, and what is left admits every code point
    intro run hrun c hc
    have hpiece : runText ⟨t, runs⟩ run ∈
        Script.segments lookup (Text.ofUnits t.units l.start (some l.stop)) := by
      rw [← map_runText_runsIn hs h]
      exact List.mem_map_of_mem hrun
    have htag := Script.tag_mem_common (hpieces.homogeneous _ hpiece) fun d hd =>
      hnamed d (List.mem_flatten_of_mem hpiece hd)
    rw [script_of_mem_runsIn hs h hrun]
    exact Script.admits_of_mem_common htag hc
  · -- scripts of runs are tags of pieces, in the same order
    have hchain := Script.isChain_tag hpieces hnamed
    rw [← map_script_runsOfPieces _ l.start, List.isChain_map] at hchain
    exact hchain

/-- Inside each logical run of a line that was analysed, the texts of the runs divide the code
points into homogeneous pieces; no neighbours can be merged, and no other such division has fewer
pieces. Where the lookup gives named codes, the tag of a run is a script of each of its code
points that is not inherited, and neighbours have different tags. -/
theorem divide_best (lookup : Lookup) {ctx : Bidi.Context} {source : Source} {t : Text}
    {fault : Option Text} {logical : List Bidi.LogicalRun} (h : source.checked = .ok t)
    (hlogical : (ctx.analyse t fault).2 = .ok logical) :
    ∃ line, (divide lookup ctx source fault).2 = .ok line ∧ line.text = t ∧ ∀ l ∈ logical,
      Script.Best lookup (Text.ofUnits t.units l.start (some l.stop))
        ((line.runsInside l).map line.runText) ∧
      ((∀ c ∈ Text.ofUnits t.units l.start (some l.stop), Script.IsNamed lookup c) →
        (∀ run ∈ line.runsInside l, ∀ c ∈ line.runText run,
          Script.isInherited (Script.extensions lookup c) = false →
            run.script ∈ Script.extensions lookup c) ∧
        (line.runsInside l).IsChain fun a b => a.script ≠ b.script) := by
  rw [Bidi.Context.analyse_eq_match] at hlogical
  cases hlevels : (Bidi.resolveText t fault).levels with
  | error cause =>
    rw [hlevels] at hlogical
    cases hlogical
  | ok levels =>
    rw [hlevels] at hlogical
    obtain rfl := Except.ok.inj hlogical
    have hfollow := Bidi.follow_logicalRuns (Bidi.length_levels hlevels)
    refine ⟨_, divide_eq lookup ctx fault h, by rw [hlevels], ?_⟩
    rw [hlevels]
    intro l hl
    obtain ⟨hle, hsize⟩ := hfollow.within_units hl
    simp only [runsInside_flatMap hfollow hl]
    rw [map_runText_runsIn hle hsize]
    exact ⟨Script.best_segments lookup _, scripts_runsIn hle hsize⟩

/-- A Latin and a Cyrillic letter with an inherited mark, in front of a Hebrew letter. -/
theorem divide_cyrillic_best :
    ∃ line, (divide .standard .fresh (.text [0x61, 0x436, 0x334, 0x5D0]) none).2 = .ok line ∧
      Script.Best .standard [0x61, 0x436, 0x334] ((line.runsInside ⟨0, 3, 0⟩).map line.runText) ∧
      (line.runsInside ⟨0, 3, 0⟩).IsChain fun a b => a.script ≠ b.script := by
  have hchecked : Source.checked (.text [0x61, 0x436, 0x334, 0x5D0]) =
      .ok [0x61, 0x436, 0x334, 0x5D0] := by decide
  have hanalyse : (Bidi.Context.fresh.analyse [0x61, 0x436, 0x334, 0x5D0] none).2 =
      .ok [⟨0, 3, 0⟩, ⟨3, 4, 1⟩] := by decide +kernel
  have hspan : Text.ofUnits (Text.units [0x61, 0x436, 0x334, 0x5D0])
      ((⟨0, 3, 0⟩ : Bidi.LogicalRun).start : Int) (some (⟨0, 3, 0⟩ : Bidi.LogicalRun).stop) =
        [0x61, 0x436, 0x334] := by decide
  have hcodes : ([0x61, 0x436, 0x334] : Text).map Unicode.scriptExtensions =
      [["Latn"], ["Cyrl"], ["Zinh"]] := by decide +kernel
  have hnamed : ∀ c ∈ ([0x61, 0x436, 0x334] : Text), Script.IsNamed .standard c := by
    intro c hc
    have hmem : Unicode.scriptExtensions c ∈ [["Latn"], ["Cyrl"], ["Zinh"]] :=
      hcodes ▸ List.mem_map_of_mem hc
    refine ⟨_, rfl, ?_⟩
    revert hmem
    generalize Unicode.scriptExtensions c = codes
    revert codes
    decide
  obtain ⟨line, hline, -, hbest⟩ := divide_best .standard hchecked hanalyse
  obtain ⟨hdivision, hscripts⟩ := hbest ⟨0, 3, 0⟩ List.mem_cons_self
  rw [hspan] at hdivision hscripts
  exact ⟨line, hline, hdivision, (hscripts hnamed).2⟩

end Line

end LineRuns
