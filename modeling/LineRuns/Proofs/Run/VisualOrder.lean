import LineRuns.Run
import Mathlib.Data.List.SplitBy
import Mathlib.Data.List.TakeWhile

/-!
# The order that the pass comes to

The pass over positions turns around slices of a list that it reads at the same time. What it comes
to can be said without positions: every maximal stretch of runs that do not have the direction of
the line is turned around (`turnStretches`), then perhaps the whole. No run is lost on the way, and
the order is the same whether the runs stand where they are or are copied first.
-/

namespace LineRuns.Run

variable {α β : Type} {P : α → Bool} {s l : List α} {x : α}

/-! ## Stretches -/

/-- Turns around every maximal stretch of entries that are in a set. -/
def turnStretches (P : α → Bool) (l : List α) : List α :=
  (l.splitBy fun a b => P a == P b).flatMap fun s => if s.all P then s.reverse else s

/-- What is in the set at the front of a list, as far as it goes, and the rest. -/
theorem exists_stretch (P : α → Bool) (l : List α) :
    ∃ s m, l = s ++ m ∧ (∀ x ∈ s, P x = true) ∧ ∀ x ∈ m.head?, P x = false := by
  refine ⟨l.takeWhile P, l.dropWhile P, List.takeWhile_append_dropWhile.symm,
    fun x hx => List.mem_takeWhile_imp hx, ?_⟩
  intro x hx
  have hnot := List.head?_dropWhile_not P l
  rw [hx] at hnot
  exact hnot

/-- A list is taken apart into single entries outside the set and maximal stretches of entries in
it. -/
theorem stretch_induction {motive : List α → Prop} (nil : motive [])
    (plain : ∀ x l, P x = false → motive l → motive (x :: l))
    (stretch : ∀ s l, s ≠ [] → (∀ x ∈ s, P x = true) → (∀ x ∈ l.head?, P x = false) →
      motive l → motive (s ++ l)) (l : List α) : motive l := by
  -- on the length: a stretch takes at least one entry
  induction hn : l.length using Nat.strongRecOn generalizing l with
  | _ n ih =>
    obtain ⟨s, m, rfl, hs, hm⟩ := exists_stretch P l
    rw [List.length_append] at hn
    by_cases hne : s = []
    · subst hne
      cases m with
      | nil => exact nil
      | cons x rest =>
        simp only [List.length_nil, List.length_cons] at hn
        exact plain x rest (hm x rfl) (ih rest.length (by omega) rest rfl)
    · have hpos := List.length_pos_iff.mpr hne
      exact stretch s m hne hs hm (ih m.length (by omega) m rfl)

/-- Entries that are alike are one stretch in front of others. -/
theorem splitBy_append_of_alike {b : Bool} (hne : s ≠ []) (hs : ∀ x ∈ s, P x = b)
    (hl : ∀ x ∈ l.head?, P x = !b) :
    (s ++ l).splitBy (fun a b => P a == P b) = s :: l.splitBy fun a b => P a == P b := by
  have hends : ∀ x ∈ s.getLast?, ∀ y ∈ l.head?, (P x == P y) = false := by
    intro x hx y hy
    rw [hs x (List.mem_of_mem_getLast? hx), hl y hy]
    cases b <;> rfl
  have hchain : s.IsChain fun a b => (P a == P b) = true := by
    refine List.Pairwise.isChain (List.pairwise_iff_forall_sublist.mpr ?_)
    intro x y hxy
    rw [hs x (hxy.subset (by simp)), hs y (hxy.subset (by simp)), beq_self_eq_true]
  rw [List.splitBy_append hends, List.splitBy_of_isChain hne hchain, List.singleton_append]

@[simp] theorem turnStretches_nil : turnStretches P [] = [] := rfl

theorem turnStretches_append (hs : ∀ x ∈ s, P x = true) (hl : ∀ x ∈ l.head?, P x = false) :
    turnStretches P (s ++ l) = s.reverse ++ turnStretches P l := by
  rcases eq_or_ne s [] with rfl | hne
  · rfl
  · rw [turnStretches, splitBy_append_of_alike hne hs hl, List.flatMap_cons,
      if_pos (List.all_eq_true.mpr hs)]
    rfl

theorem turnStretches_append_of_not (hs : ∀ x ∈ s, P x = false) (hl : ∀ x ∈ l.head?, P x = true) :
    turnStretches P (s ++ l) = s ++ turnStretches P l := by
  cases s with
  | nil => rfl
  | cons x rest =>
    have hany : ¬ (x :: rest).all P = true := by simp [hs x List.mem_cons_self]
    rw [turnStretches, splitBy_append_of_alike (List.cons_ne_nil x rest) hs hl, List.flatMap_cons,
      if_neg hany]
    rfl

/-- Entries outside the set stay, even if others of this kind follow. -/
theorem turnStretches_cons (hx : P x = false) :
    turnStretches P (x :: l) = x :: turnStretches P l := by
  obtain ⟨s, m, rfl, hs, hm⟩ := exists_stretch (fun y => !P y) l
  simp only [Bool.not_eq_true', Bool.not_eq_false'] at hs hm
  have hfront : ∀ y ∈ x :: s, P y = false := List.forall_mem_cons.mpr ⟨hx, hs⟩
  rw [← List.cons_append, turnStretches_append_of_not hfront hm, turnStretches_append_of_not hs hm,
    List.cons_append]

theorem turnStretches_perm (P : α → Bool) (l : List α) : (turnStretches P l).Perm l := by
  induction l using stretch_induction (P := P) with
  | nil => exact .refl _
  | plain x l hx ih =>
    rw [turnStretches_cons hx]
    exact ih.cons x
  | stretch s l _ hs hl ih =>
    rw [turnStretches_append hs hl]
    exact s.reverse_perm.append ih

/-- Stretches are the same before and after entries are renamed. -/
theorem turnStretches_map {Q : β → Bool} {f : α → β} (h : ∀ x ∈ l, Q (f x) = P x) :
    turnStretches Q (l.map f) = (turnStretches P l).map f := by
  induction l using stretch_induction (P := P) with
  | nil => rfl
  | plain x l hx ih =>
    obtain ⟨hfirst, hrest⟩ := List.forall_mem_cons.mp h
    rw [List.map_cons, turnStretches_cons (hfirst.trans hx), turnStretches_cons hx, ih hrest,
      List.map_cons]
  | stretch s l _ hs hl ih =>
    obtain ⟨hfront, hrest⟩ := List.forall_mem_append.mp h
    have hs' : ∀ y ∈ s.map f, Q y = true :=
      List.forall_mem_map.mpr fun x hx => (hfront x hx).trans (hs x hx)
    have hl' : ∀ y ∈ (l.map f).head?, Q y = false := by
      intro y hy
      rw [List.head?_map] at hy
      obtain ⟨x, hx, rfl⟩ := Option.map_eq_some_iff.mp hy
      exact (hrest x (List.mem_of_mem_head? hx)).trans (hl x hx)
    rw [List.map_append, turnStretches_append hs' hl', turnStretches_append hs hl, ih hrest,
      List.map_append, List.map_reverse]

theorem turnStretches_of_all (h : ∀ x ∈ l, P x = true) : turnStretches P l = l.reverse := by
  have happend : turnStretches P (l ++ []) = l.reverse ++ turnStretches P [] :=
    turnStretches_append h fun x hx => by cases hx
  rwa [List.append_nil, turnStretches_nil, List.append_nil] at happend

theorem turnStretches_of_none (h : ∀ x ∈ l, P x = false) : turnStretches P l = l := by
  have happend : turnStretches P (l ++ []) = l ++ turnStretches P [] :=
    turnStretches_append_of_not h fun x hx => by cases hx
  rwa [List.append_nil, turnStretches_nil, List.append_nil] at happend

/-! ## The pass -/

/-- Whether a run does not have the direction of the line. -/
def isAgainst (line : Direction) (run : Run) : Bool :=
  run.direction != line

section Pass

variable {line : Direction} {after stretch : List Run}

/-- A stretch under way is left at the first run that has the direction of the line. -/
theorem stretchStop_append (before : List Run) (hs : ∀ run ∈ stretch, isAgainst line run = true)
    (ha : ∀ run ∈ after.head?, isAgainst line run = false) :
    stretchStop line (before ++ (stretch ++ after)) before.length =
      before.length + stretch.length := by
  induction stretch generalizing before with
  | nil =>
    rw [stretchStop, List.nil_append]
    cases after with
    | nil => simp
    | cons run rest =>
      have hrun : run.direction = line := by simpa [isAgainst] using ha run rfl
      simp [hrun]
  | cons run rest ih =>
    obtain ⟨hrun, hrest⟩ := List.forall_mem_cons.mp hs
    have hother : run.direction ≠ line := by simpa [isAgainst] using hrun
    have hmore := ih (before ++ [run]) hrest
    rw [List.append_assoc, List.length_append, List.length_singleton] at hmore
    have hstep : stretchStop line (before ++ (run :: rest ++ after)) before.length =
        stretchStop line (before ++ ([run] ++ (rest ++ after))) (before.length + 1) := by
      rw [stretchStop]
      simp [hother]
    rw [hstep, hmore, List.length_cons]
    omega

theorem turnSlice_append (before stretch after : List Run) :
    turnSlice (before ++ (stretch ++ after)) before.length (before.length + stretch.length) =
      before ++ stretch.reverse ++ after := by
  have hslice : (before ++ (stretch ++ after)).extract before.length
      (before.length + stretch.length) = stretch := by
    rw [List.extract_eq_take_drop, List.drop_left, Nat.add_sub_cancel_left, List.take_left]
  have hrest : (before ++ (stretch ++ after)).drop (before.length + stretch.length) = after := by
    rw [← List.append_assoc, ← List.length_append, List.drop_left]
  rw [turnSlice, List.take_left, hslice, hrest]

/-- From any position on the pass turns around the stretches behind it. What is before has its
place already. -/
theorem turnFrom_append (line : Direction) (before after : List Run) :
    turnFrom line (before ++ after) before.length =
      before ++ turnStretches (isAgainst line) after := by
  induction after using stretch_induction (P := isAgainst line) generalizing before with
  | nil =>
    rw [turnFrom]
    simp
  | plain run rest hrun ih =>
    have hline : run.direction = line := by simpa [isAgainst] using hrun
    have hmore := ih (before ++ [run])
    rw [turnFrom, turnStretches_cons hrun]
    simpa [hline] using hmore
  | stretch s rest hne hs hrest ih =>
    obtain ⟨run, more, rfl⟩ := List.exists_cons_of_ne_nil hne
    have hother : run.direction ≠ line := by simpa [isAgainst] using hs run List.mem_cons_self
    have hmore := ih (before ++ (run :: more).reverse)
    rw [List.length_append, List.length_reverse] at hmore
    rw [turnFrom, turnStretches_append hs hrest]
    simp only [stretchStop_append before hs hrest, turnSlice_append, hmore]
    simp [hother]

end Pass

/-! ## The whole order -/

/-- The order without positions: stretches against the line are turned around, and then the line, if
it is not left-to-right. -/
def visualOrder (items : List Run) : List Run :=
  match items.head? with
  | none => []
  | some first =>
    let turned := turnStretches (isAgainst first.direction) items
    if first.direction = .leftToRight then turned else turned.reverse

/-- Runs come into this order where they stand. -/
theorem run_reorder (items : List Run) : reorder.run items = ((), visualOrder items) := by
  cases items with
  | nil => rfl
  | cons first rest =>
    have hpass : turnFrom first.direction (first :: rest) 0 =
        turnStretches (isAgainst first.direction) (first :: rest) :=
      turnFrom_append first.direction [] (first :: rest)
    by_cases hright : first.direction = .leftToRight
    · rw [hright] at hpass
      simp [reorder, visualOrder, hright, hpass]
      rfl
    · simp [reorder, visualOrder, hright, hpass]
      rfl

/-- A copy comes into it, and the runs stay where they are. -/
theorem run_visual (items : List Run) : visual.run items = (visualOrder items, items) := by
  simp [visual, run_reorder]
  rfl

/-- No run is lost, doubled or changed. -/
theorem visualOrder_perm (items : List Run) : (visualOrder items).Perm items := by
  cases items with
  | nil => exact .refl _
  | cons first rest =>
    have hturned := turnStretches_perm (isAgainst first.direction) (first :: rest)
    simp only [visualOrder, List.head?_cons]
    split
    · exact hturned
    · exact (List.reverse_perm _).trans hturned

end LineRuns.Run
