import LineRuns.Proofs.Line.RunTexts
import LineRuns.Proofs.Line.Tiling
import Mathlib.Data.List.Forall2

/-!
# Runs counted in code points

Runs are addressed by code units, their texts by code points. Since no run ends within a pair of
units, both countings go along: the texts of the runs make up the text that all units read as, and
the ranges of the runs in code points follow one another from its start to its end.
-/

namespace LineRuns

/-- The extents of pieces of a text that follow one another from `start`: where each starts and how
long it is. -/
def Text.extents (start : Nat) : List Text → List (Nat × Nat)
  | [] => []
  | p :: rest => (start, p.length) :: extents (start + p.length) rest

theorem Text.consecutive_extents {pieces : List Text} (hne : ∀ p ∈ pieces, p ≠ []) (start : Nat) :
    Consecutive (fun r : Nat × Nat => (r.1 : Int)) (fun r => (r.1 : Int) + r.2) start
      (start + pieces.flatten.length) (extents start pieces) := by
  induction pieces generalizing start with
  | nil => exact (Int.add_zero _).symm
  | cons p rest ih =>
    obtain ⟨hp, hrest⟩ := List.forall_mem_cons.mp hne
    have hpos := List.length_pos_iff.mpr hp
    have hmore := ih hrest (start + p.length)
    rw [Int.natCast_add, Int.add_assoc, ← Int.natCast_add p.length, ← List.length_append,
      ← List.flatten_cons] at hmore
    refine ⟨rfl, ?_, hmore⟩
    simp only
    omega

/-- Extents find the pieces in the whole text. -/
theorem Text.forall₂_extents (before : Text) (pieces : List Text) {t : Text}
    (ht : t = before ++ pieces.flatten) :
    List.Forall₂ (fun p r => (t.drop r.1).take r.2 = p) pieces (extents before.length pieces) := by
  induction pieces generalizing before with
  | nil => exact .nil
  | cons p rest ih =>
    rw [List.flatten_cons, ← List.append_assoc] at ht
    have hrest := ih (before ++ p) ht
    rw [List.length_append] at hrest
    refine .cons ?_ hrest
    rw [ht, List.append_assoc, List.drop_left, List.take_left]

namespace Line

open Script (Lookup)
open CodeUnit (CutPair)

variable {line : Line} {run : Run} {before after : List Run} {t : Text}

theorem Reads.runText_ne_nil (h : line.Reads) (hrun : run ∈ line.runs) : line.runText run ≠ [] := by
  obtain ⟨hstart, hpos, hstop⟩ := h.tiles.bounds hrun
  have hwidth := width_runText hstart hpos.le hstop rfl rfl
  rw [← Text.width_pos_iff]
  omega

/-- The ranges of runs in code points are the extents of their texts. -/
theorem Reads.mapM_codePointRange (h : line.Reads) (hruns : line.runs = before ++ after) :
    after.mapM line.codePointRange =
      .ok (Text.extents (before.map line.runText).flatten.length (after.map line.runText)) := by
  induction after generalizing before with
  | nil => rfl
  | cons run rest ih =>
    have hfirst := h.codePointRange_eq hruns
    have hruns' : line.runs = before ++ [run] ++ rest := by simp [hruns]
    have hrest := ih hruns'
    rw [List.map_append, List.flatten_append, List.length_append, List.map_singleton,
      List.flatten_singleton] at hrest
    simp only [List.mapM_cons, hfirst, hrest, bind, Except.bind, pure, Except.pure]
    rfl

/-- A position between two units at which neither a run starts nor stops if they are a pair. -/
theorem Reads.not_isLead_isTrail (h : line.Reads) (hrun : run ∈ line.runs) {k : Nat}
    (hk : run.start = k + 1 ∨ run.stop = k + 1) {u v : CodeUnit} (hu : line.units[k]? = some u)
    (hv : line.units[k + 1]? = some v) : ¬ (u.isLead = true ∧ v.isTrail = true) := by
  rw [← Array.getElem?_toList] at hu hv
  intro hpair
  refine h.not_cutPair hrun (k := k + 1) (by simpa using hk) ⟨u, ?_, v, ?_, hpair⟩
  · rw [Option.mem_def, List.getLast?_take]
    simp [hu]
  · rw [Option.mem_def, List.head?_drop, hv]

/-- Whatever surrogates a line has and whatever the lookup answers, no run of the divided line ends
between a lead unit and a trail unit right behind it. So the texts of the runs, in order, are what
all units read as, and this is the text itself unless two surrogates in it look like a pair. The
ranges of the runs in code points follow one another from the first code point of this text to its
last, none is empty, and each finds the text of its run there. -/
theorem divide_keeps_pairs (lookup : Lookup) (ctx : Bidi.Context) {source : Source} {t : Text}
    (fault : Option Text) (h : source.checked = .ok t) :
    ∃ line, (divide lookup ctx source fault).2 = .ok line ∧ line.text = t ∧
      (∀ run ∈ line.runs, ∀ (k : Nat) (u v : CodeUnit), run.start = k + 1 ∨ run.stop = k + 1 →
        t.units[k]? = some u → t.units[k + 1]? = some v →
          ¬ (u.isLead = true ∧ v.isTrail = true)) ∧
      (line.runs.map line.runText).flatten = Text.ofUnits t.units 0 none ∧
      ((line.runs.map line.runText).flatten = t ↔ ¬ Text.HasPair t) ∧
      ∃ ranges, line.runs.mapM line.codePointRange = .ok ranges ∧
        Consecutive (fun r : Nat × Nat => (r.1 : Int)) (fun r => (r.1 : Int) + r.2) 0
          (Text.ofUnits t.units 0 none).length ranges ∧
        List.Forall₂ (fun run r =>
          ((Text.ofUnits t.units 0 none).drop r.1).take r.2 = line.runText run)
            line.runs ranges := by
  obtain ⟨line, hline, rfl, hreads⟩ := exists_reads lookup ctx fault h
  have hall : Text.ofUnits line.text.units 0 none = (line.runs.map line.runText).flatten := by
    rw [hreads.texts, Text.ofUnits_all]
    rfl
  have hne : ∀ p ∈ line.runs.map line.runText, p ≠ [] :=
    List.forall_mem_map.mpr fun run hrun => hreads.runText_ne_nil hrun
  refine ⟨line, hline, rfl, fun run hrun k u v hk => hreads.not_isLead_isTrail hrun hk, hall.symm,
    ?_, _, hreads.mapM_codePointRange (List.nil_append line.runs).symm, ?_, ?_⟩
  · rw [hreads.texts]
    exact Text.decode_units_eq_iff
  · have hconsecutive := Text.consecutive_extents hne 0
    rw [Int.natCast_zero, Int.zero_add] at hconsecutive
    rw [hall]
    exact hconsecutive
  · have hextents := Text.forall₂_extents [] (line.runs.map line.runText) rfl
    rw [List.forall₂_map_left_iff] at hextents
    rw [hall]
    exact hextents

/-- Two surrogates come back as the letter they look like, in one run, though no script is found for
it; so the line has a code point less than its text. -/
theorem divide_surrogates_keeps_pairs :
    ∃ line, (divide (Lookup.standard.changed [(0x10000, none)]) .fresh (.text surrogates) none).2 =
        .ok line ∧
      (line.runs.map line.runText).flatten =
        [0x61, 0x1D400, 0x10000, 0x202B, 0x5D0, 0x301, 0x202C, 0x2F] ∧
      (line.runs.map line.runText).flatten ≠ surrogates ∧
      (∀ run ∈ line.runs, run.start ≠ 4 ∧ run.stop ≠ 4) ∧
      ∃ ranges, line.runs.mapM line.codePointRange = .ok ranges ∧
        Consecutive (fun r : Nat × Nat => (r.1 : Int)) (fun r => (r.1 : Int) + r.2) 0 8 ranges := by
  have hchecked : Source.checked (.text surrogates) = .ok surrogates := by decide
  have hall : Text.ofUnits surrogates.units 0 none =
      [0x61, 0x1D400, 0x10000, 0x202B, 0x5D0, 0x301, 0x202C, 0x2F] := by decide +kernel
  obtain ⟨line, hline, -, hends, htexts, hiff, ranges, hranges, hconsecutive, -⟩ :=
    divide_keeps_pairs (Lookup.standard.changed [(0x10000, none)]) .fresh none hchecked
  rw [hall] at htexts hconsecutive
  have hne : (line.runs.map line.runText).flatten ≠ surrogates := by
    rw [htexts]
    decide
  refine ⟨line, hline, htexts, hne, ?_, ranges, hranges, hconsecutive⟩
  intro run hrun
  have hcut : ¬ (run.start = 4 ∨ run.stop = 4) := fun hat =>
    hends run hrun 3 0xD800 0xDC00 hat (by decide +kernel) (by decide +kernel) (by decide)
  exact not_or.mp hcut

end Line

end LineRuns
