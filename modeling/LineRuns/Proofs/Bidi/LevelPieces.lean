import LineRuns.Proofs.Bidi.LogicalRun
import LineRuns.Proofs.Text.Pairs
import Mathlib.Data.List.Chain

/-!
# Logical runs as pieces of the text

A logical run is addressed by code units; behind it stands a piece of the text, the characters
that have its level one after another. `levelPieces` are these pieces, and `ofLevels_eq_spans` says
that the logical runs are the spans of them. So what the units of a run read as is known from its
characters, and if surrogates that look like a pair share their level, reading run by run is
reading the whole text (`flatMap_ofUnits_logicalRuns`).
-/

namespace LineRuns.Bidi

/-- Pieces with a character in front: it joins the first piece if it has its level. -/
def addFront (c : CodePoint) (level : Nat) : List (Text × Nat) → List (Text × Nat)
  | [] => [([c], level)]
  | (piece, level') :: more =>
    if level' = level then (c :: piece, level) :: more
    else ([c], level) :: (piece, level') :: more

/-- Neighbouring characters of one level, taken together as far as they go. -/
def levelPieces : List (CodePoint × Nat) → List (Text × Nat)
  | [] => []
  | (c, level) :: rest => addFront c level (levelPieces rest)

/-- The spans of pieces that follow one another from `start`, as logical runs. -/
def spans (start : Nat) : List (Text × Nat) → List LogicalRun
  | [] => []
  | (piece, level) :: rest =>
    ⟨start, start + piece.width, level⟩ :: spans (start + piece.width) rest

/-- The characters of pieces, each at the level of its piece. -/
def charsOf (pieces : List (Text × Nat)) : List (CodePoint × Nat) :=
  pieces.flatMap fun p => p.1.map (·, p.2)

/-- Surrogates that look like a pair are at one level. -/
def Together (chars : List (CodePoint × Nat)) : Prop :=
  ∀ before c d rest, chars = before ++ c :: d :: rest → c.1.isLead = true → d.1.isTrail = true →
    c.2 = d.2

variable {chars : List (CodePoint × Nat)} {pieces : List (Text × Nat)} {c : CodePoint} {level : Nat}

/-! ## A character in front -/

theorem charsOf_addFront : charsOf (addFront c level pieces) = (c, level) :: charsOf pieces := by
  cases pieces with
  | nil => rfl
  | cons p more =>
    rw [addFront]
    split
    · rename_i hlevel
      rw [← hlevel]
      rfl
    · rfl

theorem ne_nil_of_mem_addFront (h : ∀ p ∈ pieces, p.1 ≠ []) :
    ∀ p ∈ addFront c level pieces, p.1 ≠ [] := by
  cases pieces with
  | nil => exact List.forall_mem_singleton.mpr (List.cons_ne_nil c [])
  | cons p more =>
    rw [addFront]
    split
    · exact List.forall_mem_cons.mpr ⟨List.cons_ne_nil c _, (List.forall_mem_cons.mp h).2⟩
    · exact List.forall_mem_cons.mpr ⟨List.cons_ne_nil c [], h⟩

theorem isChain_addFront (h : pieces.IsChain fun p q => p.2 ≠ q.2) :
    (addFront c level pieces).IsChain fun p q => p.2 ≠ q.2 := by
  cases pieces with
  | nil => exact List.IsChain.singleton _
  | cons p more =>
    rw [addFront]
    split
    · rename_i hlevel
      rw [List.isChain_cons] at h ⊢
      exact ⟨fun q hq => hlevel ▸ h.1 q hq, h.2⟩
    · rename_i hlevel
      exact List.IsChain.cons_cons (fun heq => hlevel heq.symm) h

/-- The spans get the character in front as logical runs do. -/
theorem spans_addFront (start : Nat) :
    spans start (addFront c level pieces) =
      LogicalRun.grow start (start + c.width) level (spans (start + c.width) pieces) := by
  cases pieces with
  | nil => rfl
  | cons p more =>
    rw [addFront]
    split
    · rename_i hlevel
      simp [spans, LogicalRun.grow, hlevel, Nat.add_assoc]
    · rename_i hlevel
      simp [spans, LogicalRun.grow, hlevel]

/-! ## Pieces -/

theorem charsOf_levelPieces (chars : List (CodePoint × Nat)) :
    charsOf (levelPieces chars) = chars := by
  induction chars with
  | nil => rfl
  | cons p rest ih => rw [levelPieces, charsOf_addFront, ih]

theorem ne_nil_of_mem_levelPieces : ∀ p ∈ levelPieces chars, p.1 ≠ [] := by
  induction chars with
  | nil => exact fun p hp => absurd hp List.not_mem_nil
  | cons p rest ih => exact ne_nil_of_mem_addFront ih

/-- Neighbouring pieces have different levels. -/
theorem isChain_levelPieces (chars : List (CodePoint × Nat)) :
    (levelPieces chars).IsChain fun p q => p.2 ≠ q.2 := by
  induction chars with
  | nil => exact List.IsChain.nil
  | cons p rest ih => exact isChain_addFront ih

/-- The logical runs of characters are the spans of their pieces. -/
theorem ofLevels_eq_spans (start : Nat) (chars : List (CodePoint × Nat)) :
    LogicalRun.ofLevels start (chars.map fun p => (p.1.width, p.2)) =
      spans start (levelPieces chars) := by
  induction chars generalizing start with
  | nil => rfl
  | cons p rest ih => rw [List.map_cons, LogicalRun.ofLevels_cons, ih, levelPieces, spans_addFront]

/-! ## Reading piece by piece -/

/-- Pieces whose levels differ from neighbour to neighbour are read one by one, if no pair of
surrogates is divided among two levels. -/
theorem decode_pieces (hne : ∀ p ∈ pieces, p.1 ≠ []) (hchain : pieces.IsChain fun p q => p.2 ≠ q.2)
    (htogether : Together (charsOf pieces)) :
    Text.decode (Text.units (pieces.flatMap Prod.fst)).toList =
      pieces.flatMap fun p => Text.decode p.1.units.toList := by
  induction pieces with
  | nil => rfl
  | cons p rest ih =>
    obtain ⟨-, hne'⟩ := List.forall_mem_cons.mp hne
    have htail : Together (charsOf rest) := by
      intro before c d more heq
      refine htogether (p.1.map (·, p.2) ++ before) c d more ?_
      rw [List.append_assoc, ← heq]
      rfl
    have hrest := ih hne' hchain.tail htail
    have hcut :
        ¬ CodeUnit.CutPair p.1.units.toList (Text.units (rest.flatMap Prod.fst)).toList := by
      rw [Text.cutPair_units_iff]
      rintro ⟨c, hc, d, hd, hlead, htrail⟩
      cases rest with
      | nil => cases hd
      | cons q more =>
        -- the two surrogates would be neighbours at the levels of neighbouring pieces
        obtain ⟨hq, -⟩ := List.forall_mem_cons.mp hne'
        obtain ⟨piece, level⟩ := p
        obtain ⟨next, level'⟩ := q
        obtain ⟨first, next, rfl⟩ := List.exists_cons_of_ne_nil hq
        obtain rfl : first = d := Option.some.inj hd
        obtain ⟨piece, rfl⟩ := List.getLast?_eq_some_iff.mp hc
        refine (List.isChain_cons_cons.mp hchain).1 (htogether (piece.map (·, level)) (c, level)
          (first, level') (next.map (·, level') ++ charsOf more) ?_ hlead htrail)
        simp [charsOf]
    rw [List.flatMap_cons, List.flatMap_cons, Text.toList_units_append, Text.decode_append hcut,
      hrest]

/-- The spans of pieces hold what the pieces read as. -/
theorem map_ofUnits_spans {t : Text} (pieces : List (Text × Nat)) (before : Text)
    (ht : t = before ++ pieces.flatMap Prod.fst) :
    (spans before.width pieces).map (fun l => Text.ofUnits t.units l.start (some (l.stop : Int))) =
      pieces.map fun p => Text.decode p.1.units.toList := by
  induction pieces generalizing before with
  | nil => rfl
  | cons p more ih =>
    rw [List.flatMap_cons, ← List.append_assoc] at ht
    have hfirst := Text.ofUnits_middle before p.1 (more.flatMap Prod.fst)
    have hmore := ih (before ++ p.1) ht
    rw [← ht] at hfirst
    rw [Text.width_append] at hmore
    rw [spans, List.map_cons, List.map_cons, hmore, ← hfirst]

theorem map_fst_charsOf (pieces : List (Text × Nat)) :
    (charsOf pieces).map Prod.fst = pieces.flatMap Prod.fst := by
  rw [charsOf, List.map_flatMap]
  simp [Function.comp_def]

/-- Reading the units of a text logical run by logical run is reading all of them, if no pair of
surrogates is divided among two levels. -/
theorem flatMap_ofUnits_logicalRuns {t : Text} {levels : List Nat}
    (hlength : levels.length = t.length) (htogether : Together (t.zip levels)) :
    (logicalRuns t levels).flatMap (fun l => Text.ofUnits t.units l.start (some (l.stop : Int))) =
      Text.decode t.units.toList := by
  have hchars := charsOf_levelPieces (t.zip levels)
  have ht : (levelPieces (t.zip levels)).flatMap Prod.fst = t := by
    rw [← map_fst_charsOf, hchars, List.map_fst_zip hlength.ge]
  have hdecode := decode_pieces ne_nil_of_mem_levelPieces (isChain_levelPieces (t.zip levels))
    (hchars.symm ▸ htogether)
  have hspans := map_ofUnits_spans (levelPieces (t.zip levels)) [] ht.symm
  rw [ht] at hdecode
  rw [Text.width_nil] at hspans
  rw [hdecode, List.flatMap_def, List.flatMap_def, logicalRuns, ofLevels_eq_spans, hspans]

end LineRuns.Bidi
