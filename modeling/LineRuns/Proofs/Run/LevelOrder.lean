import LineRuns.Proofs.Run.VisualOrder

/-!
# The order of levels

Rule L2 of UAX #9 puts a line into visual order level by level: from the highest level down to the
lowest odd one, every maximal stretch at that level or a higher one is turned around. Here it is
said of any entries with levels (`levelOrder`). Where only two levels meet, the lower one that of
the first run, one turn of the stretches and perhaps one of the whole are left of it, and this is
the order that directions alone decide.
-/

namespace LineRuns.Run

variable {α : Type} {runs : List (α × Nat)} {p : Nat}

/-! ## The rule -/

/-- Turns around every maximal stretch of entries at a level or a higher one. -/
def turnAtLeast (level : Nat) (runs : List (α × Nat)) : List (α × Nat) :=
  turnStretches (fun r => decide (level ≤ r.2)) runs

/-- Entries turned around from the highest level down to the lowest odd level. -/
def levelOrder (runs : List (α × Nat)) : List (α × Nat) :=
  let levels := runs.map Prod.snd
  match levels.max?, (levels.filter fun level => level % 2 == 1).min? with
  -- the fold starts from its last level, the highest
  | some highest, some lowest =>
    (List.range' lowest (highest + 1 - lowest)).foldr turnAtLeast runs
  | _, _ => runs

theorem levelOrder_eq {highest lowest : Nat} (hhighest : ∃ r ∈ runs, r.2 = highest)
    (hle : ∀ r ∈ runs, r.2 ≤ highest) (hlowest : ∃ r ∈ runs, r.2 = lowest) (hodd : lowest % 2 = 1)
    (hge : ∀ r ∈ runs, r.2 % 2 = 1 → lowest ≤ r.2) :
    levelOrder runs = (List.range' lowest (highest + 1 - lowest)).foldr turnAtLeast runs := by
  have hmax : (runs.map Prod.snd).max? = some highest :=
    List.max?_eq_some_iff.mpr ⟨List.mem_map.mpr hhighest, List.forall_mem_map.mpr hle⟩
  have hmin : ((runs.map Prod.snd).filter fun level => level % 2 == 1).min? = some lowest := by
    refine List.min?_eq_some_iff.mpr ⟨?_, ?_⟩
    · rw [List.mem_filter, hodd]
      exact ⟨List.mem_map.mpr hlowest, rfl⟩
    · intro level hlevel
      obtain ⟨hmem, hlevel⟩ := List.mem_filter.mp hlevel
      obtain ⟨r, hr, rfl⟩ := List.mem_map.mp hmem
      exact hge r hr (beq_iff_eq.mp hlevel)
  simp only [levelOrder, hmax, hmin]

/-- Without an odd level everything stays. -/
theorem levelOrder_of_all_even (h : ∀ r ∈ runs, r.2 % 2 = 0) : levelOrder runs = runs := by
  have hfilter : (runs.map Prod.snd).filter (fun level => level % 2 == 1) = [] := by
    rw [List.filter_eq_nil_iff, List.forall_mem_map]
    intro r hr
    simp [h r hr]
  simp only [levelOrder, hfilter, List.min?_nil]
  cases (runs.map Prod.snd).max? <;> rfl

/-! ## Two levels -/

section TwoLevels

variable (h : ∀ r ∈ runs, r.2 = p ∨ r.2 = p + 1)
include h

theorem turnAtLeast_of_absent (habsent : ¬ ∃ r ∈ runs, r.2 = p + 1) :
    turnAtLeast (p + 1) runs = runs := by
  refine turnStretches_of_none fun r hr => ?_
  have hlevel : r.2 ≠ p + 1 := fun hlevel => habsent ⟨r, hr, hlevel⟩
  have hlower := (h r hr).resolve_right hlevel
  simp only [hlower, decide_eq_false_iff_not]
  omega

theorem levelOrder_of_even (hp : p % 2 = 0) : levelOrder runs = turnAtLeast (p + 1) runs := by
  by_cases hhigher : ∃ r ∈ runs, r.2 = p + 1
  · have hle : ∀ r ∈ runs, r.2 ≤ p + 1 := fun r hr => by have hlevel := h r hr; omega
    have hge : ∀ r ∈ runs, r.2 % 2 = 1 → p + 1 ≤ r.2 := fun r hr _ => by
      have hlevel := h r hr
      omega
    rw [levelOrder_eq hhigher hle hhigher (by omega) hge, Nat.add_sub_cancel_left]
    rfl
  · have heven : ∀ r ∈ runs, r.2 % 2 = 0 := by
      intro r hr
      have hlevel : r.2 ≠ p + 1 := fun hlevel => hhigher ⟨r, hr, hlevel⟩
      have hlower := (h r hr).resolve_right hlevel
      omega
    rw [levelOrder_of_all_even heven, turnAtLeast_of_absent h hhigher]

theorem levelOrder_of_odd (hp : p % 2 = 1) (hlower : ∃ r ∈ runs, r.2 = p) :
    levelOrder runs = (turnAtLeast (p + 1) runs).reverse := by
  have hge : ∀ r ∈ runs, p ≤ r.2 := fun r hr => by have hlevel := h r hr; omega
  have hge' : ∀ r ∈ runs, r.2 % 2 = 1 → p ≤ r.2 := fun r hr _ => hge r hr
  by_cases hhigher : ∃ r ∈ runs, r.2 = p + 1
  · have hle : ∀ r ∈ runs, r.2 ≤ p + 1 := fun r hr => by have hlevel := h r hr; omega
    have hcount : p + 1 + 1 - p = 2 := by omega
    rw [levelOrder_eq hhigher hle hlower hp hge', hcount]
    -- at the lower level all is one stretch, however the higher one was turned
    refine turnStretches_of_all fun r hr => ?_
    have hmem := (turnStretches_perm _ runs).mem_iff.mp hr
    exact decide_eq_true (hge r hmem)
  · have hle : ∀ r ∈ runs, r.2 ≤ p := by
      intro r hr
      have hlevel : r.2 ≠ p + 1 := fun hlevel => hhigher ⟨r, hr, hlevel⟩
      exact ((h r hr).resolve_right hlevel).le
    rw [levelOrder_eq hlower hle hlower hp hge', Nat.add_sub_cancel_left,
      turnAtLeast_of_absent h hhigher]
    exact turnStretches_of_all fun r hr => decide_eq_true (hge r hr)

end TwoLevels

/-- Levels next to each other have different directions. -/
theorem ofLevel_succ_ne (level : Nat) :
    Direction.ofLevel (level + 1) ≠ Direction.ofLevel level := by
  rcases Nat.mod_two_eq_zero_or_one level with heven | hodd
  · rw [Direction.ofLevel, Direction.ofLevel, if_pos (by omega), if_neg (by omega)]
    decide
  · rw [Direction.ofLevel, Direction.ofLevel, if_neg (by omega), if_pos hodd]
    decide

/-- Where two levels meet, the order by directions is the order by levels. -/
theorem visualOrder_eq_levelOrder {runs : List (Run × Nat)}
    (hfirst : ∀ first ∈ runs.head?, first.2 = p) (hlevels : ∀ r ∈ runs, r.2 = p ∨ r.2 = p + 1)
    (hdirections : ∀ r ∈ runs, r.1.direction = Direction.ofLevel r.2) :
    visualOrder (runs.map Prod.fst) = (levelOrder runs).map Prod.fst := by
  cases runs with
  | nil => rfl
  | cons first rest =>
    have hp : first.2 = p := hfirst first rfl
    have hline : first.1.direction = Direction.ofLevel p :=
      hp ▸ hdirections first List.mem_cons_self
    have hagainst : ∀ r ∈ first :: rest,
        isAgainst (Direction.ofLevel p) r.1 = decide (p + 1 ≤ r.2) := by
      intro r hr
      rw [isAgainst, hdirections r hr]
      rcases hlevels r hr with hlevel | hlevel
      · simp [hlevel]
      · simp [hlevel, ofLevel_succ_ne]
    have hturned : turnStretches (isAgainst (Direction.ofLevel p)) ((first :: rest).map Prod.fst) =
        (turnAtLeast (p + 1) (first :: rest)).map Prod.fst :=
      turnStretches_map hagainst
    simp only [visualOrder, List.map_cons, List.head?_cons, hline]
    rw [← List.map_cons, hturned]
    rcases Nat.mod_two_eq_zero_or_one p with heven | hodd
    · have hright : Direction.ofLevel p = .leftToRight := if_neg (by omega)
      rw [if_pos hright, levelOrder_of_even hlevels heven]
    · have hleft : ¬ Direction.ofLevel p = .leftToRight := by
        rw [Direction.ofLevel, if_pos hodd]
        decide
      rw [if_neg hleft, levelOrder_of_odd hlevels hodd ⟨first, List.mem_cons_self, hp⟩,
        List.map_reverse]

end LineRuns.Run
