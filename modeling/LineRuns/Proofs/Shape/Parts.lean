import LineRuns.Proofs.Line.CodePoints
import LineRuns.Proofs.Run.VisualOrder
import LineRuns.Proofs.Text.RoundTrip
import LineRuns.Shape

/-!
# The parts that are laid out

A run is laid out as the part of its line's text that its range in code points names. The range
counts the code points that the units read as, and the text is cut at its own characters: these are
the same unless two of its surrogates look like a pair (`divide_parts_iff`). In a text with such
surrogates each pair counts once but is two characters, so parts come from too far in front, and
the end of the text is not laid out at all.
-/

namespace LineRuns

/-! ## Extents as places -/

/-- The places in extents that follow one another are a range. -/
theorem Text.flatMap_extents (start : Nat) (pieces : List Text) :
    (extents start pieces).flatMap (fun r => List.range' r.1 r.2) =
      List.range' start pieces.flatten.length := by
  induction pieces generalizing start with
  | nil => rfl
  | cons p rest ih =>
    rw [extents, List.flatMap_cons, ih, List.flatten_cons, List.length_append,
      List.range'_append_1]

/-! ## Results in another order -/

section

variable {α β ε : Type} {f : α → Except ε β} {x : α} {l m : List α} {results : List β}

theorem mapM_cons_eq_ok_iff :
    (x :: l).mapM f = .ok results ↔
      ∃ first others, f x = .ok first ∧ l.mapM f = .ok others ∧ results = first :: others := by
  rw [List.mapM_cons]
  cases hx : f x with
  | error e => simp [bind, Except.bind]
  | ok first =>
    cases hl : l.mapM f with
    | error e => simp [bind, Except.bind]
    | ok others => simp [bind, Except.bind, pure, Except.pure, eq_comm]

/-- What succeeds for each entry of a list succeeds in any other order, with the same results. -/
theorem exists_mapM_perm (hperm : l.Perm m) (h : l.mapM f = .ok results) :
    ∃ others, m.mapM f = .ok others ∧ results.Perm others := by
  induction hperm generalizing results with
  | nil => exact ⟨results, h, .refl _⟩
  | cons x _ ih =>
    obtain ⟨first, rest, hfirst, hrest, rfl⟩ := mapM_cons_eq_ok_iff.mp h
    obtain ⟨others, hothers, hperm⟩ := ih hrest
    exact ⟨first :: others, mapM_cons_eq_ok_iff.mpr ⟨first, others, hfirst, hothers, rfl⟩,
      hperm.cons first⟩
  | swap x y l =>
    obtain ⟨first, more, hfirst, hmore, rfl⟩ := mapM_cons_eq_ok_iff.mp h
    obtain ⟨second, rest, hsecond, hrest, rfl⟩ := mapM_cons_eq_ok_iff.mp hmore
    have hswapped := mapM_cons_eq_ok_iff.mpr ⟨first, rest, hfirst, hrest, rfl⟩
    exact ⟨second :: first :: rest,
      mapM_cons_eq_ok_iff.mpr ⟨second, _, hsecond, hswapped, rfl⟩, .swap second first rest⟩
  | trans _ _ ih₁ ih₂ =>
    obtain ⟨middle, hmiddle, hp⟩ := ih₁ h
    obtain ⟨others, hothers, hq⟩ := ih₂ hmiddle
    exact ⟨others, hothers, hp.trans hq⟩

end

namespace Shape

open Script (Lookup)

variable {line : Line} {run : Run} {before after : List Run}

/-! ## Parts of runs -/

/-- A run is laid out as its own part of the text: the units of the part are those that it spans. -/
def LaysOutOwn (line : Line) (run : Run) : Prop :=
  ∃ range, line.codePointRange run = .ok range ∧
    (part line range).units = Position.slice line.units run.start (some run.stop)

/-- The part of a run is its own if it is the text that its units read as. -/
theorem laysOutOwn_of_part {range : Nat × Nat} (hrange : line.codePointRange run = .ok range)
    (hpart : part line range = line.runText run) : LaysOutOwn line run := by
  refine ⟨range, hrange, ?_⟩
  rw [hpart, Line.runText, Text.units_ofUnits]

/-- Its own part is as wide as a run. -/
theorem LaysOutOwn.width_part {range : Nat × Nat} (h : LaysOutOwn line run)
    (hrange : line.codePointRange run = .ok range) :
    (part line range).width = (line.runText run).width := by
  obtain ⟨own, hown, hunits⟩ := h
  obtain rfl := Except.ok.inj (hown.symm.trans hrange)
  rw [← Text.size_units, hunits, ← Text.size_units, Line.runText, Text.units_ofUnits]

/-- If the last runs of a line are laid out as their own parts, then these together are as wide as
the runs. -/
theorem width_parts (h : line.Reads) (hruns : line.runs = before ++ after)
    (hown : ∀ run ∈ after, LaysOutOwn line run) :
    Text.width ((line.text.drop (before.map line.runText).flatten.length).take
        (after.map line.runText).flatten.length) =
      Text.width (after.map line.runText).flatten := by
  induction after generalizing before with
  | nil => rw [List.map_nil, List.flatten_nil, List.length_nil, List.take_zero]
  | cons run rest ih =>
    obtain ⟨hfirst, hothers⟩ := List.forall_mem_cons.mp hown
    have hwidth := hfirst.width_part (h.codePointRange_eq hruns)
    have hruns' : line.runs = before ++ [run] ++ rest := by simp [hruns]
    have hrest := ih hruns' hothers
    rw [List.map_append, List.flatten_append, List.length_append, List.map_singleton,
      List.flatten_singleton, ← List.drop_drop] at hrest
    rw [part] at hwidth
    rw [List.map_cons, List.flatten_cons, List.length_append, List.take_add, Text.width_append,
      Text.width_append, hwidth, hrest]

/-- All runs of a line that reads as all units are laid out as their own parts if and only if no two
surrogates in its text look like a pair. -/
theorem forall_laysOutOwn_iff (h : line.Reads) :
    (∀ run ∈ line.runs, LaysOutOwn line run) ↔ ¬ Text.HasPair line.text := by
  constructor
  · intro hown hpair
    -- all parts are the front of the text, so it would be too narrow
    have hless := Text.length_decode_units_lt hpair
    have hwidth := width_parts h (List.nil_append line.runs).symm hown
    have hsplit := congrArg Text.width
      (List.take_append_drop (Text.decode line.units.toList).length line.text)
    rw [List.map_nil, List.flatten_nil, List.length_nil, List.drop_zero, h.texts,
      Text.width_decode, Line.units, Text.length_toList_units] at hwidth
    rw [Text.width_append, Line.units, hwidth] at hsplit
    have hdrop : line.text.drop (Text.decode line.text.units.toList).length ≠ [] := by
      rw [ne_eq, List.drop_eq_nil_iff]
      omega
    have hpos := Text.width_pos_iff.mpr hdrop
    omega
  · intro hpair run hrun
    obtain ⟨before, after, hruns⟩ := List.append_of_mem hrun
    have htext : line.text = (line.runs.map line.runText).flatten := by
      rw [h.texts]
      exact (Text.decode_units_eq_iff.mpr hpair).symm
    refine laysOutOwn_of_part (h.codePointRange_eq hruns) ?_
    rw [part, htext, hruns, List.map_append, List.flatten_append, List.drop_left, List.map_cons,
      List.flatten_cons, List.take_left]

/-! ## Parts of divided lines -/

/-- The runs of a divided line are all laid out as their own parts of its text if and only if no two
surrogates in the text look like a pair. In either order of the runs, what is laid out for them is
the front of the text, each character once, as many characters as its units read as; and this is
every character of the text under the same condition alone. -/
theorem divide_parts_iff (lookup : Lookup) (ctx : Bidi.Context) {source : Source} {t : Text}
    (fault : Option Text) (h : source.checked = .ok t) :
    ∃ line, (Line.divide lookup ctx source fault).2 = .ok line ∧ line.text = t ∧
      ((∀ run ∈ line.runs, LaysOutOwn line run) ↔ ¬ Text.HasPair t) ∧
      ∀ order ∈ [line.runs, line.visualRuns], ∃ ranges,
        order.mapM line.codePointRange = .ok ranges ∧
        (ranges.flatMap fun r => List.range' r.1 r.2).Perm
          (List.range (Text.ofUnits t.units 0 none).length) ∧
        ((ranges.flatMap fun r => List.range' r.1 r.2).Perm (List.range t.length) ↔
          ¬ Text.HasPair t) := by
  obtain ⟨line, hline, rfl, hreads⟩ := Line.exists_reads lookup ctx fault h
  refine ⟨line, hline, rfl, forall_laysOutOwn_iff hreads, fun order horder => ?_⟩
  have hperm : line.runs.Perm order := by
    rw [Line.visualRuns, Run.run_visual] at horder
    rcases List.mem_pair.mp horder with rfl | rfl
    · exact .refl _
    · exact (Run.visualOrder_perm line.runs).symm
  obtain ⟨ranges, hranges, hsame⟩ :=
    exists_mapM_perm hperm (hreads.mapM_codePointRange (List.nil_append line.runs).symm)
  have hplaces : (ranges.flatMap fun r => List.range' r.1 r.2).Perm
      (List.range (Text.ofUnits line.text.units 0 none).length) := by
    have hextents := Text.flatMap_extents 0 (line.runs.map line.runText)
    rw [hreads.texts, ← List.range_eq_range'] at hextents
    rw [Text.ofUnits_all, ← Line.units, ← hextents]
    exact (hsame.flatMap_right _).symm
  refine ⟨ranges, hranges, hplaces, ?_⟩
  rw [Text.ofUnits_all] at hplaces
  constructor
  · intro hall hpair
    have hless := Text.length_decode_units_lt hpair
    have hlength := (hplaces.symm.trans hall).length_eq
    rw [List.length_range, List.length_range] at hlength
    omega
  · intro hpair
    rwa [Text.decode_units_eq_iff.mpr hpair] at hplaces

/-- A line without such surrogates, though it has some: each of its characters is laid out once. -/
theorem divide_parts_iff_turned :
    Source.checked (.text [0x5D0, 0xDC00, 0xD800, 0x1D400]) =
        .ok [0x5D0, 0xDC00, 0xD800, 0x1D400] ∧
      ∃ line, (Line.divide .standard .fresh (.text [0x5D0, 0xDC00, 0xD800, 0x1D400]) none).2 =
          .ok line ∧
        (∀ run ∈ line.runs, LaysOutOwn line run) ∧
        ∃ ranges, line.visualRuns.mapM line.codePointRange = .ok ranges ∧
          (ranges.flatMap fun r => List.range' r.1 r.2).Perm (List.range 4) := by
  have hchecked : Source.checked (.text [0x5D0, 0xDC00, 0xD800, 0x1D400]) =
      .ok [0x5D0, 0xDC00, 0xD800, 0x1D400] := by decide
  have hpair : ¬ Text.HasPair [0x5D0, 0xDC00, 0xD800, 0x1D400] := by
    rw [← Text.decode_units_eq_iff]
    decide +kernel
  obtain ⟨line, hline, -, hown, horders⟩ := divide_parts_iff .standard .fresh none hchecked
  obtain ⟨ranges, hranges, -, hall⟩ := horders line.visualRuns (by simp)
  exact ⟨hchecked, line, hline, hown.mpr hpair, ranges, hranges, hall.mpr hpair⟩

/-- Two surrogates that look like a pair, and a letter behind them: the letter's run is laid out as
the second surrogate, and the letter for no run. -/
theorem part_behind_surrogates :
    ∃ line, (Line.divide .standard .fresh (.text [0xD800, 0xDC00, 0x61]) none).2 = .ok line ∧
      line.runs = [⟨0, 2, "Linb", .leftToRight⟩, ⟨2, 1, "Latn", .leftToRight⟩] ∧
      line.runs.mapM line.codePointRange = .ok [(0, 1), (1, 1)] ∧
      part line (1, 1) = [0xDC00] ∧ line.runText ⟨2, 1, "Latn", .leftToRight⟩ = [0x61] ∧
      ¬ ∀ run ∈ line.runs, LaysOutOwn line run := by
  have hchecked : Source.checked (.text [0xD800, 0xDC00, 0x61]) = .ok [0xD800, 0xDC00, 0x61] := by
    decide
  obtain ⟨line, hline, htext, hreads⟩ := Line.exists_reads .standard .fresh none hchecked
  have hdivided : line = ⟨[0xD800, 0xDC00, 0x61],
      [⟨0, 2, "Linb", .leftToRight⟩, ⟨2, 1, "Latn", .leftToRight⟩]⟩ := by
    rw [Line.divide_eq .standard .fresh none hchecked] at hline
    exact (Except.ok.inj hline).symm.trans (by decide +kernel)
  have hranges := hreads.mapM_codePointRange (List.nil_append line.runs).symm
  have hown := forall_laysOutOwn_iff hreads
  subst hdivided
  refine ⟨_, hline, rfl, hranges.trans (by decide +kernel), by decide, by decide +kernel, ?_⟩
  rw [hown, not_not]
  exact ⟨[], 0xD800, 0xDC00, [0x61], rfl, by decide, by decide⟩

end Shape

end LineRuns
