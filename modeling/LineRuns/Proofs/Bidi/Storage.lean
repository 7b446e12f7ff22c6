import LineRuns.Bidi.Context
import Mathlib.Data.List.Basic

/-!
# What the stages leave in the storage

The stages change a storage in place, level run by level run; the resolution of
`LineRuns.Bidi.Resolution` maps over stretches and has no state. From a cleared storage both come
to the same: the level runs are the places of the stretches, so that changing the cells of one run
after another is changing one stretch after another (`changeAll_ofStretches`,
`implyAll_ofStretches`). `analyse_eq` carries this to contexts: what an analysis leaves and gives
is read off the resolution of its text, whatever the context held before.
-/

namespace LineRuns.Bidi

open Unicode (BidiClass)

/-! ## Cells and stretches -/

/-- The cells of blocks, each at the level of its block. -/
private def blockCells (blocks : List (Nat × List BidiClass)) : List Cell :=
  blocks.flatMap fun b => b.2.map (⟨·, b.1⟩)

private theorem blockCells_levelBlocks (cells : List Cell) :
    blockCells (levelBlocks cells) = cells := by
  induction cells with
  | nil => rfl
  | cons c rest ih =>
    rw [levelBlocks]
    cases hb : levelBlocks rest with
    | nil =>
      rw [hb] at ih
      simp [blockCells, ← ih]
    | cons block more =>
      obtain ⟨level, classes⟩ := block
      rw [hb] at ih
      simp only
      split
      · rename_i hlevel
        simp [blockCells, ← ih, ← hlevel]
      · simp [blockCells, ← ih]

private theorem flatMap_withSides (base before : Nat) (blocks : List (Nat × List BidiClass)) :
    (withSides base before blocks).flatMap Stretch.cells = blockCells blocks := by
  induction blocks generalizing before with
  | nil => rfl
  | cons block more ih =>
    obtain ⟨level, classes⟩ := block
    cases more with
    | nil => simp [withSides, blockCells, Stretch.cells]
    | cons next rest =>
      rw [withSides, List.flatMap_cons, ih]
      simp [blockCells, Stretch.cells]

/-- The stretches hold all cells, in order. -/
theorem flatMap_stretches (base : Nat) (cells : List Cell) :
    (stretches base cells).flatMap Stretch.cells = cells := by
  rw [stretches, flatMap_withSides, blockCells_levelBlocks]

/-- Cells are implied piece by piece, as long as nothing stops this. -/
theorem imply_append (xs ys : List Cell) :
    imply (xs ++ ys) = match imply xs with
      | (done, some cls) => (done ++ ys, some cls)
      | (done, none) => (done ++ (imply ys).1, (imply ys).2) := by
  induction xs with
  | nil => rfl
  | cons c rest ih =>
    simp only [List.cons_append, imply]
    cases impliedLevel c.cls c.level with
    | none => rfl
    | some level =>
      simp only [ih]
      rcases imply rest with ⟨done, stopped⟩
      cases stopped <;> rfl

theorem length_imply (cells : List Cell) : (imply cells).1.length = cells.length := by
  induction cells with
  | nil => rfl
  | cons c rest ih =>
    rw [imply]
    split
    · rfl
    · simp [ih]

/-! ## Work on level runs is work on stretches -/

namespace LevelRun

variable {run : LevelRun} {pre mid post : List Cell}

private theorem slice_mid (hs : run.start = pre.length) (hl : run.length = mid.length) :
    run.slice (pre ++ (mid ++ post)) = mid := by
  rw [slice, hs, hl, List.drop_left, List.take_left]

private theorem put_mid (hs : run.start = pre.length) (hl : run.length = mid.length)
    (new : List Cell) : run.put new (pre ++ (mid ++ post)) = pre ++ new ++ post := by
  rw [put, hs, hl, List.take_left, ← List.length_append, ← List.append_assoc pre mid post,
    List.drop_left]

/-- Changing the cells at the places of stretches changes the stretches, if the change is the same
on both and keeps their lengths. -/
theorem changeAll_ofStretches {change : LevelRun → List Cell → List Cell} {f : Stretch → Stretch}
    (hlen : ∀ s, (f s).classes.length = s.classes.length)
    (hf : ∀ s start, change ⟨start, s.classes.length, s.sor, s.eor⟩ s.cells = (f s).cells)
    (parts : List Stretch) (pre : List Cell) :
    changeAll change (ofStretches pre.length parts) (pre ++ parts.flatMap Stretch.cells) =
      pre ++ (parts.map f).flatMap Stretch.cells := by
  induction parts generalizing pre with
  | nil => rfl
  | cons s rest ih =>
    have hnext : pre.length + s.classes.length = (pre ++ (f s).cells).length := by
      rw [List.length_append, Stretch.length_cells, hlen]
    -- the place of the stretch holds its cells, and what is put there has the same length
    rw [ofStretches, changeAll, List.flatMap_cons, slice_mid rfl s.length_cells.symm,
      put_mid rfl s.length_cells.symm, hf, hnext, ih]
    simp

/-- The places of stretches stay the same when only their classes change. -/
theorem ofStretches_map {f : Stretch → Stretch}
    (hlen : ∀ s, (f s).classes.length = s.classes.length)
    (hsides : ∀ s, (f s).sor = s.sor ∧ (f s).eor = s.eor) (parts : List Stretch) (start : Nat) :
    ofStretches start (parts.map f) = ofStretches start parts := by
  induction parts generalizing start with
  | nil => rfl
  | cons s rest ih =>
    rw [List.map_cons, ofStretches, ofStretches, hlen, (hsides s).1, (hsides s).2, ih]

/-- Implied levels run by run are implied levels of all cells, up to the same class that stops. -/
theorem implyAll_ofStretches (parts : List Stretch) (pre : List Cell) :
    implyAll (ofStretches pre.length parts) (pre ++ parts.flatMap Stretch.cells) =
      (pre ++ (imply (parts.flatMap Stretch.cells)).1,
        (imply (parts.flatMap Stretch.cells)).2) := by
  induction parts generalizing pre with
  | nil => simp [ofStretches, implyAll, imply]
  | cons s rest ih =>
    have hput : ∀ new, put ⟨pre.length, s.classes.length, s.sor, s.eor⟩ new
        (pre ++ (s.cells ++ rest.flatMap Stretch.cells)) =
          pre ++ new ++ rest.flatMap Stretch.cells :=
      put_mid rfl s.length_cells.symm
    rw [ofStretches, implyAll, List.flatMap_cons, slice_mid rfl s.length_cells.symm, imply_append]
    have hlen := length_imply s.cells
    rcases hi : imply s.cells with ⟨done, stopped⟩
    rw [hi] at hlen
    cases stopped with
    | some cls => simp [hput]
    | none =>
      have hnext : pre.length + s.classes.length = (pre ++ done).length := by
        rw [List.length_append, hlen, Stretch.length_cells]
      simp only [hput, hnext, ih]
      simp

/-- The weak classes of a level run are those of its stretch. -/
theorem weak_cells (s : Stretch) (start : Nat) :
    weak ⟨start, s.classes.length, s.sor, s.eor⟩ s.cells = s.weak.cells := by
  have hzip : ∀ classes weak : List BidiClass,
      List.zipWith (fun (c : Cell) cls => { c with cls })
        (classes.map fun cls => (⟨cls, s.level⟩ : Cell)) weak =
      (weak.take classes.length).map (⟨·, s.level⟩) := by
    intro classes
    induction classes with
    | nil => intro weak; simp
    | cons cls rest ih =>
      intro weak
      cases weak with
      | nil => simp
      | cons w weak => simpa using ih weak
  simp only [weak, Stretch.map_cls_cells]
  rw [Stretch.cells, hzip]
  simp [Stretch.weak, Stretch.cells, List.take_of_length_le]

/-- The neutral classes of a level run are those of its stretch. -/
theorem neutral_cells (s : Stretch) (start : Nat) :
    neutral ⟨start, s.classes.length, s.sor, s.eor⟩ s.cells = s.neutral.cells := by
  have hlevels := map_level_resolveNeutral s.sor s.eor s.cells
  have hall : ∀ c ∈ resolveNeutral s.sor s.eor s.cells, c.level = s.level := by
    intro c hc
    have hmem : c.level ∈ s.cells.map Cell.level :=
      hlevels ▸ List.mem_map_of_mem hc
    simp only [Stretch.cells, List.map_map, List.mem_map, Function.comp_apply] at hmem
    obtain ⟨cls, -, hlevel⟩ := hmem
    exact hlevel.symm
  have hback : ((resolveNeutral s.sor s.eor s.cells).map Cell.cls).map (⟨·, s.level⟩) =
      resolveNeutral s.sor s.eor s.cells := by
    rw [List.map_map]
    conv_rhs => rw [← List.map_id (resolveNeutral s.sor s.eor s.cells)]
    refine List.map_congr_left fun c hc => ?_
    simp [← hall c hc]
  exact hback.symm

end LevelRun

/-! ## Stages on a storage that holds stretches -/

namespace Storage

/-- The storage holds the cells of these stretches, with their places as level runs. -/
structure Holds (s : Storage) (parts : List Stretch) : Prop where
  cells : s.cells = parts.flatMap Stretch.cells
  runs : s.runs = LevelRun.ofStretches 0 parts

variable {s : Storage} {parts : List Stretch}

theorem holds_embed (s : Storage) :
    s.embed.Holds (stretches s.baseLevel (s.placed.filterMap id)) :=
  ⟨(flatMap_stretches _ _).symm, rfl⟩

theorem Holds.changeAll {change : LevelRun → List Cell → List Cell} {f : Stretch → Stretch}
    (h : s.Holds parts) (hlen : ∀ s, (f s).classes.length = s.classes.length)
    (hsides : ∀ s, (f s).sor = s.sor ∧ (f s).eor = s.eor)
    (hf : ∀ s start, change ⟨start, s.classes.length, s.sor, s.eor⟩ s.cells = (f s).cells) :
    Holds { s with cells := LevelRun.changeAll change s.runs s.cells } (parts.map f) where
  cells := by
    have hall := LevelRun.changeAll_ofStretches hlen hf parts []
    rw [h.cells, h.runs]
    simpa using hall
  runs := by
    rw [LevelRun.ofStretches_map hlen hsides]
    exact h.runs

theorem Holds.weak (h : s.Holds parts) : s.weak.Holds (parts.map Stretch.weak) :=
  h.changeAll (fun s => length_resolveWeak s.sor s.classes) (fun _ => ⟨rfl, rfl⟩)
    LevelRun.weak_cells

theorem Holds.neutral (h : s.Holds parts) : s.neutral.Holds (parts.map Stretch.neutral) :=
  h.changeAll (fun s => by simp [Stretch.neutral]) (fun _ => ⟨rfl, rfl⟩) LevelRun.neutral_cells

theorem Holds.imply (h : s.Holds parts) :
    s.imply = ({ s with cells := (Bidi.imply (parts.flatMap Stretch.cells)).1 },
      (Bidi.imply (parts.flatMap Stretch.cells)).2) := by
  have hall := LevelRun.implyAll_ofStretches parts []
  rw [Storage.imply, h.cells, h.runs]
  simp only [List.length_nil, List.nil_append] at hall
  rw [hall]

/-! ## Analyses -/

/-- What the storage holds once a text was resolved, by the resolution of the text. -/
def ofResolution (t : Text) (r : Resolution) : Storage where
  base := some r.base
  side := some (Side.ofLevel r.base)
  chars := keep t (placesOf (t.map Unicode.bidiClass))
  cells := r.cells
  runs := r.runs

@[simp] theorem clear_eq (s : Storage) : s.clear = empty := rfl

private theorem placed_prepare (t : Text) :
    (empty.prepare t).placed = placesOf (t.map Unicode.bidiClass) := by
  simp [prepare, placed, placesOf, hideIsolates, load, setBase, empty, baseLevel,
    Function.comp_def]

private theorem holds_prepare (t : Text) :
    (empty.prepare t).embed.Holds (stretchesOf (t.map Unicode.bidiClass)) := by
  have h := holds_embed (empty.prepare t)
  rwa [placed_prepare] at h

/-- Once the explicit levels are found, nothing but cells depends on the later stages. -/
private theorem embed_prepare (t : Text) (cells : List Cell) :
    { (empty.prepare t).embed with cells } =
      (⟨some (Bidi.baseLevel (t.map Unicode.bidiClass)),
        some (Side.ofLevel (Bidi.baseLevel (t.map Unicode.bidiClass))),
        keep t (placesOf (t.map Unicode.bidiClass)), cells,
        LevelRun.ofStretches 0 (stretchesOf (t.map Unicode.bidiClass))⟩ : Storage) := by
  have hchars : (empty.prepare t).embed.chars = keep t (placesOf (t.map Unicode.bidiClass)) := by
    simp only [embed, placed_prepare]
    rfl
  simp only [hchars, (holds_prepare t).runs]
  rfl

/-- The last stage of a text goes through the settled cells. -/
private theorem imply_prepare (t : Text) :
    (empty.prepare t).embed.weak.neutral.imply =
      ({ (empty.prepare t).embed with cells := (Bidi.imply (settled (t.map Unicode.bidiClass))).1 },
        (Bidi.imply (settled (t.map Unicode.bidiClass))).2) := by
  have hsettled : (((stretchesOf (t.map Unicode.bidiClass)).map Stretch.weak).map
      Stretch.neutral).flatMap Stretch.cells = settled (t.map Unicode.bidiClass) := by
    simp [settled, List.flatMap_map]
  rw [(holds_prepare t).weak.neutral.imply, hsettled]
  rfl

/-- From a cleared storage the stages come to the resolution of the text. -/
theorem resolve_empty (t : Text) (fault : Option Text) :
    empty.resolve t fault =
      (ofResolution t (resolveText t fault), (resolveText t fault).levels.map t.zip) := by
  cases fault with
  | some cause =>
    -- stopped before the weak classes, with the explicit levels in place
    have hembed := embed_prepare t (empty.prepare t).embed.cells
    simp only [embed, placed_prepare] at hembed
    simp only [resolve, embed, placed_prepare, hembed]
    rfl
  | none =>
    have hchars : (empty.prepare t).chars = t := rfl
    simp only [resolve, imply_prepare, embed_prepare, placed_prepare, hchars, resolveText,
      Bidi.resolve]
    rcases Bidi.imply (settled (t.map Unicode.bidiClass)) with ⟨done, stopped⟩
    cases stopped with
    | some cls => rfl
    | none => rfl

end Storage

/-- An analysis starts from a cleared storage, so it leaves and gives what the resolution of its
text says, whatever the context held before. -/
theorem Context.analyse_eq (ctx : Context) (t : Text) (fault : Option Text) :
    ctx.analyse t fault =
      (⟨ctx.analyses + 1, some (resolveText t fault).base,
          Storage.ofResolution t (resolveText t fault)⟩,
        match (resolveText t fault).levels with
        | .error cause => .error (.failed cause)
        | .ok levels => runsOfLevels (t.zip levels)) := by
  simp only [analyse, reset, Storage.clear_eq, Storage.resolve_empty]
  cases (resolveText t fault).levels <;> rfl

end LineRuns.Bidi
