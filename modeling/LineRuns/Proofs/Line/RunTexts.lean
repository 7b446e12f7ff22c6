import LineRuns.Proofs.Bidi.LevelPieces
import LineRuns.Proofs.Bidi.Sides
import LineRuns.Proofs.Line.Segmentation
import LineRuns.Proofs.Text.Units

/-!
# The texts of the runs

Surrogates side by side come to one level, so no run of a divided line stops within a pair, and the
texts of the runs are the text of the line.
-/

/-! ## Surrogates share their level

All surrogates have the class of left-to-right letters. A letter changes nothing for the character
behind it, so two surrogates side by side are given one level and one class, and no pass treats
them differently: a lead and a trail surrogate never come to different levels.
-/

namespace LineRuns

open Unicode (BidiClass)

namespace Unicode

/-- Between two rows of a table the value stays the same. -/
theorem valueAt_eq {α : Type} (value : α) {rows : List (Nat × α)} {low high c : Nat}
    (hlow : low ≤ c) (hhigh : c ≤ high) (h : ∀ row ∈ rows, row.1 ≤ low ∨ high < row.1) :
    valueAt value c rows = valueAt value low rows := by
  induction rows generalizing value with
  | nil => rfl
  | cons row rest ih =>
    obtain ⟨start, next⟩ := row
    obtain ⟨hrow, hrest⟩ := List.forall_mem_cons.mp h
    rw [valueAt, valueAt, ih next hrest]
    rcases hrow with hbelow | habove
    · rw [if_neg (by simp only at hbelow; omega), if_neg (by simp only at hbelow; omega)]
    · rw [if_pos (by simp only at habove; omega), if_pos (by simp only at habove; omega)]

/-- Surrogates have the class of left-to-right letters. -/
theorem bidiClass_of_isSurrogate {c : CodePoint} (h : c.isSurrogate = true) :
    bidiClass c = .L := by
  have hrows : ∀ row ∈ bidiClassRows, row.1 ≤ 0xD800 ∨ 0xDFFF < row.1 := by decide +kernel
  have hfirst : valueAt .unassigned 0xD800 bidiClassRows = .L := by decide +kernel
  simp only [CodePoint.isSurrogate, Bool.and_eq_true, decide_eq_true_eq] at h
  rw [bidiClass, valueAt_eq .unassigned h.1 h.2 hrows, hfirst]

end Unicode

theorem CodePoint.isSurrogate_of_isLead {c : CodePoint} (h : c.isLead = true) :
    c.isSurrogate = true := by
  simp only [isLead, isSurrogate, Bool.and_eq_true, decide_eq_true_eq] at h ⊢
  omega

theorem CodePoint.isSurrogate_of_isTrail {c : CodePoint} (h : c.isTrail = true) :
    c.isSurrogate = true := by
  simp only [isTrail, isSurrogate, Bool.and_eq_true, decide_eq_true_eq] at h ⊢
  omega

namespace Bidi

/-- A left-to-right letter comes to the level of its class, or of the side of the override. -/
theorem getElem?_levels_of_letter {before rest : List BidiClass} {fault : Option Text}
    {levels : List Nat} {e : Embedding}
    (h : (resolve (before ++ .L :: rest) fault).levels = .ok levels)
    (he : e = before.foldl (Embedding.after (baseLevel (before ++ .L :: rest)))
      (.start (baseLevel (before ++ .L :: rest)))) :
    levels[before.length]? = impliedLevel (e.override.getD .L).toClass e.level := by
  have hclass : e.classUnder .L = (e.override.getD .L).toClass := by
    unfold Embedding.classUnder
    cases e.override <;> rfl
  obtain ⟨level, hlevel⟩ := exists_getElem?_levels h
  obtain ⟨now, hnow, himplied⟩ :=
    (closed_toClass (e.override.getD .L)).exists_implied h he rfl (by decide) hlevel
  rw [hlevel, ← hnow hclass, himplied]

/-- Two left-to-right letters side by side come to the same level. -/
theorem getElem?_levels_of_letters {before rest : List BidiClass} {fault : Option Text}
    {levels : List Nat} (h : (resolve (before ++ .L :: .L :: rest) fault).levels = .ok levels) :
    levels[before.length]? = levels[before.length + 1]? := by
  have happend : before ++ .L :: .L :: rest = (before ++ [.L]) ++ .L :: rest := by simp
  have hfirst := getElem?_levels_of_letter h rfl
  rw [happend] at h hfirst
  have hsecond := getElem?_levels_of_letter h rfl
  rw [List.length_append, List.length_singleton, List.foldl_append] at hsecond
  rw [hfirst, hsecond]
  rfl

/-- Levels that were resolved keep surrogates together that look like a pair. -/
theorem together_levels {t : Text} {fault : Option Text} {levels : List Nat}
    (h : (resolveText t fault).levels = .ok levels) : Together (t.zip levels) := by
  rintro before ⟨c, level⟩ ⟨d, level'⟩ rest heq hlead htrail
  have hlength := length_levels h
  have ht := congrArg (List.map Prod.fst) heq
  have hlevels := congrArg (List.map Prod.snd) heq
  rw [List.map_fst_zip hlength.ge, List.map_append, List.map_cons, List.map_cons] at ht
  rw [List.map_snd_zip hlength.le, List.map_append, List.map_cons, List.map_cons] at hlevels
  have hc := Unicode.bidiClass_of_isSurrogate (CodePoint.isSurrogate_of_isLead hlead)
  have hd := Unicode.bidiClass_of_isSurrogate (CodePoint.isSurrogate_of_isTrail htrail)
  rw [resolveText, ht, List.map_append, List.map_cons, List.map_cons, hc, hd] at h
  have hsame := getElem?_levels_of_letters h
  simpa [hlevels] using hsame

end Bidi

end LineRuns

/-! ## Texts that are read from units

The runs of a divided line give back its text: read one after another, their units read as all
units do. From this alone follow the facts about their ends: none of them is within a pair of
units (`Reads.not_cutPair`), and offsets in code points add up (`Reads.codePointRange_eq`).
-/

namespace LineRuns.Line

open Script (Lookup)
open CodeUnit (CutPair)

/-- Runs that tile the units of a line and read as these do. -/
structure Reads (line : Line) : Prop where
  tiles : Consecutive Run.start Run.stop 0 line.length line.runs
  texts : (line.runs.map line.runText).flatten = Text.decode line.units.toList

variable {line : Line} {run : Run} {before after : List Run}

theorem width_runText {start stop : Int} (hstart : 0 ≤ start) (hle : start ≤ stop)
    (hstop : stop ≤ line.length) (hs : run.start = start) (he : run.stop = stop) :
    ((line.runText run).width : Int) = stop - start := by
  obtain ⟨s, rfl⟩ := Int.eq_ofNat_of_zero_le hstart
  obtain ⟨e, rfl⟩ := Int.eq_ofNat_of_zero_le (hstart.trans hle)
  rw [runText, hs, he, Text.width_ofUnits (Int.ofNat_le.mp hle) (Int.ofNat_le.mp hstop)]
  omega

/-- Runs that follow one another read as a text as wide as they reach. -/
theorem width_runTexts {runs : List Run} {a b : Int} (h : Consecutive Run.start Run.stop a b runs)
    (ha : 0 ≤ a) (hb : b ≤ line.length) :
    (Text.width (runs.map line.runText).flatten : Int) = b - a := by
  induction runs generalizing a with
  | nil =>
    obtain rfl : a = b := h
    simp
  | cons run rest ih =>
    obtain ⟨rfl, hpos, hrest⟩ := h
    have hle := hrest.le
    have hfirst : ((line.runText run).width : Int) = run.stop - run.start :=
      width_runText ha hpos.le (by omega) rfl rfl
    have hmore := ih hrest (by omega)
    rw [List.map_cons, List.flatten_cons, Text.width_append, Int.natCast_add, hfirst, hmore]
    omega

namespace Reads

variable (h : line.Reads)
include h

/-- Where one run stops and the next starts, the units and the text come apart alike. -/
theorem split (hruns : line.runs = before ++ after) :
    ∃ k : Nat, k ≤ line.length ∧ Consecutive Run.start Run.stop 0 k before ∧
      Consecutive Run.start Run.stop k line.length after ∧
      Text.decode (line.units.toList.take k) = (before.map line.runText).flatten ∧
      Text.decode (line.units.toList.drop k) = (after.map line.runText).flatten := by
  have htiles := h.tiles
  have htexts := h.texts
  rw [hruns] at htiles htexts
  obtain ⟨k, hbefore, hafter⟩ := htiles.exists_of_append
  obtain ⟨k, rfl⟩ := Int.eq_ofNat_of_zero_le hbefore.le
  have hwidth := width_runTexts hbefore (le_refl 0) hafter.le
  rw [List.map_append, List.flatten_append] at htexts
  obtain ⟨htake, hdrop⟩ := Text.decode_split htexts.symm
  have hk : Text.width (before.map line.runText).flatten = k := by omega
  rw [hk] at htake hdrop
  exact ⟨k, Int.ofNat_le.mp hafter.le, hbefore, hafter, htake, hdrop⟩

/-- No end of a run is within a pair of units. -/
theorem not_cutPair (hrun : run ∈ line.runs) {k : Nat} (hk : run.start = k ∨ run.stop = k) :
    ¬ CutPair (line.units.toList.take k) (line.units.toList.drop k) := by
  obtain ⟨before, after, hruns⟩ := List.append_of_mem hrun
  have hcut : ∀ before after, line.runs = before ++ after →
      (∀ j : Nat, Consecutive Run.start Run.stop 0 j before →
        Consecutive Run.start Run.stop j line.length after → j = k) →
      ¬ CutPair (line.units.toList.take k) (line.units.toList.drop k) := by
    intro before after hruns hposition
    obtain ⟨j, -, hbefore, hafter, htake, hdrop⟩ := h.split hruns
    obtain rfl := hposition j hbefore hafter
    rw [← Text.decode_append_iff, List.take_append_drop, htake, hdrop, ← List.flatten_append,
      ← List.map_append, ← hruns, h.texts]
  rcases hk with hk | hk
  · refine hcut before (run :: after) hruns fun j _ hafter => ?_
    have hstart := hafter.1
    omega
  · refine hcut (before ++ [run]) after (by simp [hruns]) fun j hbefore _ => ?_
    have hstop := hbefore.getLast?_stop (by simp)
    rw [List.getLast?_concat, Option.map_some, Option.some.injEq] at hstop
    omega

/-- The place of a run in code points: behind the texts of the runs before it, as long as its own
text. -/
theorem codePointRange_eq (hruns : line.runs = before ++ run :: after) :
    line.codePointRange run =
      .ok ((before.map line.runText).flatten.length, (line.runText run).length) := by
  obtain ⟨k, hk, hbefore, hafter, htake, -⟩ := h.split hruns
  obtain ⟨hstart, hpos, hrest⟩ := hafter
  have hstop : run.stop = (run.stop.toNat : Int) := by omega
  have hle := hrest.le
  have hcounted : k ≤ run.stop.toNat ∧ run.stop.toNat ≤ line.units.size := by
    rw [length] at hle
    omega
  have hfirst := Cursor.count_eq (Nat.zero_le k) hk
  have hinside := Cursor.count_eq hcounted.1 hcounted.2
  rw [Text.ofUnits_eq_decode _ _ _ hk, List.drop_zero, Nat.sub_zero, htake] at hfirst
  rw [← hstop, ← hstart] at hinside
  rw [Int.natCast_zero, ← hstart] at hfirst
  simp only [codePointRange, bind, Except.bind, hfirst, hinside]
  rfl

end Reads

/-! ### Divided lines -/

variable {t : Text}

/-- The one run of a degraded line reads as all units. -/
theorem reads_degraded (ht : t ≠ []) : (degraded t).Reads where
  tiles := by
    have hpos : 0 < t.width := Text.width_pos_iff.mpr ht
    rw [← Text.size_units] at hpos
    refine ⟨rfl, Run.start_lt_stop.mpr (Int.natCast_pos.mpr hpos), Int.zero_add _⟩
  texts := by
    have hall := Text.ofUnits_eq_decode t.units 0 t.units.size (Nat.le_refl _)
    rw [List.drop_zero, Nat.sub_zero, ← Array.length_toList, List.take_length] at hall
    have hstop : (0 : Int) + (t.units.size : Int) = t.units.toList.length := by
      rw [Array.length_toList, Int.zero_add]
    show [Text.ofUnits t.units 0 (some (0 + (t.units.size : Int)))].flatten = _
    rw [hstop, List.flatten_singleton]
    exact hall

/-- The runs of resolved levels read as all units: those of a logical run read as it does, and no
pair is divided among logical runs. -/
theorem reads_runsIn (lookup : Lookup) {fault : Option Text} {levels : List Nat}
    (h : (Bidi.resolveText t fault).levels = .ok levels) :
    (⟨t, (Bidi.logicalRuns t levels).flatMap (runsIn lookup t.units)⟩ : Line).Reads where
  tiles := by
    have hlogical := Bidi.follow_logicalRuns (Bidi.length_levels h)
    obtain ⟨-, htiles⟩ := ofLogicalRuns_eq lookup hlogical
    rwa [length, units, Text.size_units]
  texts := by
    have hlogical := Bidi.follow_logicalRuns (Bidi.length_levels h)
    have htexts := Bidi.flatMap_ofUnits_logicalRuns (Bidi.length_levels h) (Bidi.together_levels h)
    rw [List.map_flatMap, ← List.flatMap_id, List.flatMap_assoc]
    show _ = Text.decode t.units.toList
    rw [← htexts]
    refine List.flatMap_congr fun l hl => ?_
    obtain ⟨hle, hsize⟩ := hlogical.within_units hl
    rw [List.flatMap_id, map_runText_runsIn hle hsize, Script.flatten_segments]

/-- The runs of a divided line read as all units, whether it was analysed or not. -/
theorem exists_reads (lookup : Lookup) (ctx : Bidi.Context) {source : Source}
    (fault : Option Text) (h : source.checked = .ok t) :
    ∃ line, (divide lookup ctx source fault).2 = .ok line ∧ line.text = t ∧ line.Reads := by
  refine ⟨_, divide_eq lookup ctx fault h, ?_⟩
  cases hlevels : (Bidi.resolveText t fault).levels with
  | error cause => exact ⟨rfl, reads_degraded (Source.ne_nil_of_checked h)⟩
  | ok levels => exact ⟨rfl, reads_runsIn lookup hlevels⟩

end LineRuns.Line
