import LineRuns.Proofs.Bidi.LogicalRun
import LineRuns.Proofs.Bidi.Sides

/-!
# How deep levels go

Controls may nest without end, and need not be balanced. An initiator that would reach the limit
opens nothing, and an end never comes back below the base level: all levels that an `Embedding`
knows of, the one in effect and those to come back to, lie from the base level up to 61. The implied
levels are at most one above 61, where a number goes to an even level, or two above an even level.
So no level is below the base level or above 62.
-/

namespace LineRuns.Bidi

open Unicode (BidiClass)

variable {base level : Nat} {e : Embedding}

/-- A level that a character can be given: from the base level up to the limit. -/
def IsExplicit (base level : Nat) : Prop :=
  base ≤ level ∧ level < limit

namespace Embedding

/-- The level in effect and the levels to come back to are such levels. -/
structure Within (base : Nat) (e : Embedding) : Prop where
  level : IsExplicit base e.level
  outer : ∀ p ∈ e.outer, IsExplicit base p.1

theorem within_start (hbase : base < limit) : (start base).Within base :=
  ⟨⟨Nat.le_refl base, hbase⟩, fun _ h => absurd h List.not_mem_nil⟩

/-- An initiator that finds room opens a level above the one in effect. -/
theorem Within.initiate (h : e.Within base) (hnext : e.IsNext level) (override : Option Side) :
    (e.initiate level override).Within base := by
  unfold Embedding.initiate
  split
  · exact ⟨h.level, h.outer⟩
  · split
    · rename_i hroom
      have hbase := h.level.1
      have habove : base ≤ level := by
        unfold IsNext nextOdd nextEven at hnext
        omega
      exact ⟨⟨habove, hroom⟩, List.forall_mem_cons.mpr ⟨h.level, h.outer⟩⟩
    · split <;> exact ⟨h.level, h.outer⟩

/-- An end comes back to a level that was in effect before. -/
theorem Within.terminate (h : e.Within base) : e.terminate.Within base := by
  unfold Embedding.terminate
  split
  · exact ⟨h.level, h.outer⟩
  · split
    · exact ⟨h.level, h.outer⟩
    · split
      · exact h
      · rename_i level override outer houter
        have hall := h.outer
        rw [houter] at hall
        obtain ⟨hlevel, hrest⟩ := List.forall_mem_cons.mp hall
        exact ⟨hlevel, hrest⟩

theorem Within.after (h : e.Within base) (hbase : base < limit) (cls : BidiClass) :
    (e.after base cls).Within base := by
  cases cls with
  | RLE | RLO => exact h.initiate (.inl rfl) _
  | LRE | LRO => exact h.initiate (.inr rfl) _
  | PDF => exact h.terminate
  | B => exact within_start hbase
  | _ => exact h

theorem Within.place (h : e.Within base) (hbase : base < limit) {cls : BidiClass} {c : Cell}
    (hc : e.place base cls = some c) : IsExplicit base c.level := by
  cases cls with
  | RLE | RLO | LRE | LRO | PDF | BN => cases hc
  | B =>
    cases hc
    exact ⟨Nat.le_refl base, hbase⟩
  | _ =>
    cases hc
    exact h.level

/-- Whatever controls there are, characters are given levels from the base level up to the limit. -/
theorem Within.places (h : e.Within base) (hbase : base < limit) (classes : List BidiClass) :
    ∀ c ∈ (places base e classes).filterMap id, IsExplicit base c.level := by
  induction classes generalizing e with
  | nil => exact fun c hc => absurd hc List.not_mem_nil
  | cons cls rest ih =>
    intro c hc
    rw [Bidi.places, List.mem_filterMap] at hc
    obtain ⟨p, hp, rfl⟩ := hc
    rcases List.mem_cons.mp hp with hfirst | hp
    · exact h.place hbase hfirst.symm
    · exact ih (h.after hbase cls) c (List.mem_filterMap.mpr ⟨_, hp, rfl⟩)

end Embedding

/-- A line is settled at levels from its base level up to the limit. -/
theorem isExplicit_settled (raw : List BidiClass) :
    ∀ c ∈ settled raw, IsExplicit (baseLevel raw) c.level := by
  have hbase := baseLevel_lt_limit raw
  have hplaced := (Embedding.within_start hbase).places hbase (raw.map withoutIsolates)
  rw [← List.forall_mem_map (f := Cell.level), ← placesOf, ← map_level_settled,
    List.forall_mem_map] at hplaced
  exact hplaced

/-- What a class adds to its level goes up to 62 at most. -/
theorem IsExplicit.implied (h : IsExplicit base level) {cls : BidiClass} {implied : Nat}
    (himplied : impliedLevel cls level = some implied) : base ≤ implied ∧ implied ≤ 62 := by
  obtain ⟨hbase, hlimit⟩ := h
  unfold limit at hlimit
  cases cls with
  | L | R | EN | AN =>
    -- two are added to an even level only, so to 60 at most
    simp only [impliedLevel, Option.some.injEq] at himplied
    split at himplied <;> omega
  | _ => cases himplied

/-- However many controls a text has and however deep they nest, if its levels are resolved, every
character, removed ones included, has a level from the base level up to 62. -/
theorem levels_between {ctx : Context} {t : Text} {fault : Option Text} {levels : List Nat}
    (h : ctx.levels t fault = .ok levels) :
    levels.length = t.length ∧ ∃ base, (ctx.analyse t fault).1.base = some base ∧
      ∀ level ∈ levels, base ≤ level ∧ level ≤ 62 := by
  rw [ctx.levels_eq] at h
  rw [ctx.analyse_eq, resolveText, base_resolve]
  refine ⟨length_levels h, _, rfl, ?_⟩
  refine forall_mem_levels h ?_ fun c hc level himplied =>
    (isExplicit_settled _ c hc).implied himplied
  have hone := baseLevel_le_one (t.map Unicode.bidiClass)
  omega

/-- A right-to-left letter, as many embeddings behind it as find room, and a digit inside them. -/
def deepest : Text :=
  0x5D0 :: List.replicate 30 0x202B ++ [0x31, 0x202C]

/-- The digit of such a text comes to level 62, and no level lies outside the range. -/
theorem levels_between_deepest :
    ∃ levels, Context.fresh.levels deepest none = .ok levels ∧ levels[31]? = some 62 ∧
      ∀ level ∈ levels, 1 ≤ level ∧ level ≤ 62 := by
  have hlevels : Context.fresh.levels deepest none = .ok (List.replicate 31 1 ++ [62, 62]) := by
    decide +kernel
  have hone : (Context.fresh.analyse deepest none).1.base = some 1 := by decide +kernel
  obtain ⟨-, base, hbase, hbetween⟩ := levels_between hlevels
  obtain rfl := Option.some.inj (hbase.symm.trans hone)
  exact ⟨_, hlevels, rfl, hbetween⟩

end LineRuns.Bidi
