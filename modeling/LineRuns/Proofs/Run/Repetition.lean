import LineRuns.Proofs.Run.VisualOrder
import Mathlib.Logic.Function.Iterate

/-!
# Runs put into order again

Visual order is not logical order, and putting visual runs into order once more reads the direction
of the line from whichever run came to stand first. So a second time need not undo the first one.
Turning stretches around is undone by doing it again, and it can be done before or after the whole
is turned around; what is left to decide is which run is first, and with it against which direction
the second time goes.
-/

namespace LineRuns.Run

/-! ## Stretches turned twice -/

section Stretches

variable {α : Type} {P : α → Bool} {l m n : List α}

/-- A turned stretch stands where it stood, so each place keeps whether it is in the set. -/
theorem map_turnStretches (P : α → Bool) (l : List α) : (turnStretches P l).map P = l.map P := by
  induction l using stretch_induction (P := P) with
  | nil => rfl
  | plain x l hx ih => rw [turnStretches_cons hx, List.map_cons, List.map_cons, ih]
  | stretch s l _ hs hl ih =>
    have hfront : s.reverse.map P = s.map P := by
      have hall : s.map P = List.replicate s.length true :=
        List.eq_replicate_iff.mpr ⟨List.length_map .., List.forall_mem_map.mpr hs⟩
      rw [List.map_reverse, hall, List.reverse_replicate]
    rw [turnStretches_append hs hl, List.map_append, List.map_append, hfront, ih]

theorem head?_turnStretches (P : α → Bool) (l : List α) :
    (turnStretches P l).head?.map P = l.head?.map P := by
  rw [← List.head?_map, ← List.head?_map, map_turnStretches]

theorem getLast?_turnStretches (P : α → Bool) (l : List α) :
    (turnStretches P l).getLast?.map P = l.getLast?.map P := by
  rw [← List.getLast?_map, ← List.getLast?_map, map_turnStretches]

theorem turnStretches_involutive (P : α → Bool) : Function.Involutive (turnStretches P) := by
  intro l
  induction l using stretch_induction (P := P) with
  | nil => rfl
  | plain x l hx ih => rw [turnStretches_cons hx, turnStretches_cons hx, ih]
  | stretch s l _ hs hl ih =>
    have hs' : ∀ x ∈ s.reverse, P x = true := by simpa using hs
    have hl' : ∀ x ∈ (turnStretches P l).head?, P x = false := by
      intro x hx
      have hhead := head?_turnStretches P l
      rw [hx] at hhead
      obtain ⟨y, hy, hxy⟩ := Option.map_eq_some_iff.mp hhead.symm
      rw [← hxy]
      exact hl y hy
    rw [turnStretches_append hs hl, turnStretches_append hs' hl', ih, List.reverse_reverse]

/-- A list can be cut wherever no stretch goes on. -/
theorem turnStretches_append_of_cut
    (h : (∀ x ∈ m.getLast?, P x = false) ∨ ∀ x ∈ n.head?, P x = false) :
    turnStretches P (m ++ n) = turnStretches P m ++ turnStretches P n := by
  induction m using stretch_induction (P := P) with
  | nil => rfl
  | plain x m hx ih =>
    have hcut : (∀ y ∈ m.getLast?, P y = false) ∨ ∀ y ∈ n.head?, P y = false := by
      refine h.imp_left fun hlast y hy => hlast y ?_
      rw [List.getLast?_cons, hy]
      rfl
    rw [List.cons_append, turnStretches_cons hx, turnStretches_cons hx, ih hcut, List.cons_append]
  | stretch s m hne hs hm ih =>
    rw [List.append_assoc, turnStretches_append hs hm]
    rcases eq_or_ne m [] with rfl | hm'
    · -- the stretch is the last one, so it is the rest that cannot go on
      have hn : ∀ y ∈ n.head?, P y = false := by
        refine h.resolve_left fun hlast => ?_
        have hfalse := hlast (s.getLast hne) (by simp [List.getLast?_eq_some_getLast hne])
        rw [hs _ (List.getLast_mem hne)] at hfalse
        cases hfalse
      rw [List.nil_append, turnStretches_append hs hn, turnStretches_nil, List.append_nil]
    · have hhead : ∀ y ∈ (m ++ n).head?, P y = false := by
        rw [List.head?_append_of_ne_nil _ hm']
        exact hm
      rw [List.getLast?_append_of_ne_nil _ hm'] at h
      rw [turnStretches_append hs hhead, ih h, List.append_assoc]

/-- Stretches can be turned around before or after the whole is. -/
theorem turnStretches_reverse (P : α → Bool) (l : List α) :
    turnStretches P l.reverse = (turnStretches P l).reverse := by
  induction l using stretch_induction (P := P) with
  | nil => rfl
  | plain x l hx ih =>
    have hcut : ∀ y ∈ [x].head?, P y = false := by simpa using hx
    have hlast : turnStretches P [x] = [x] := turnStretches_of_none (by simpa using hx)
    rw [List.reverse_cons, turnStretches_append_of_cut (.inr hcut), ih, hlast,
      turnStretches_cons hx, List.reverse_cons]
  | stretch s l _ hs hl ih =>
    have hcut : ∀ y ∈ l.reverse.getLast?, P y = false := by simpa using hl
    have hturned : turnStretches P s.reverse = s.reverse.reverse :=
      turnStretches_of_all (by simpa using hs)
    rw [List.reverse_append, turnStretches_append_of_cut (.inl hcut), ih, hturned,
      turnStretches_append hs hl, List.reverse_append]

end Stretches

/-! ## The order of an order -/

/-- Runs after they were put into order where they stand. -/
def reordered (items : List Run) : List Run :=
  (reorder.run items).2

theorem reordered_eq (items : List Run) : reordered items = visualOrder items := by
  rw [reordered, run_reorder]

/-- The first run has a direction. -/
def Begins (direction : Direction) (items : List Run) : Prop :=
  ∃ first ∈ items.head?, first.direction = direction

/-- The last run has a direction. -/
def Ends (direction : Direction) (items : List Run) : Prop :=
  ∃ last ∈ items.getLast?, last.direction = direction

/-- Every run goes one way or the other. -/
def AllDirected (items : List Run) : Prop :=
  ∀ run ∈ items, run.direction = .leftToRight ∨ run.direction = .rightToLeft

theorem isAgainst_eq_false_iff {line : Direction} {run : Run} :
    isAgainst line run = false ↔ run.direction = line := by
  simp [isAgainst]

section Order

variable {items : List Run} {line : Direction}

theorem visualOrder_of_begins (h : Begins line items) :
    visualOrder items = if line = .leftToRight then turnStretches (isAgainst line) items
      else (turnStretches (isAgainst line) items).reverse := by
  obtain ⟨first, hfirst, rfl⟩ := h
  rw [Option.mem_def] at hfirst
  simp only [visualOrder, hfirst]

theorem begins_turnStretches_iff : Begins line (turnStretches (isAgainst line) items) ↔
    Begins line items := by
  have hhead := head?_turnStretches (isAgainst line) items
  simp only [Begins, ← isAgainst_eq_false_iff, Option.mem_def, ← Option.map_eq_some_iff, hhead]

theorem ends_turnStretches_iff : Ends line (turnStretches (isAgainst line) items) ↔
    Ends line items := by
  have hlast := getLast?_turnStretches (isAgainst line) items
  simp only [Ends, ← isAgainst_eq_false_iff, Option.mem_def, ← Option.map_eq_some_iff, hlast]

theorem begins_reverse_iff : Begins line items.reverse ↔ Ends line items := by
  simp only [Begins, Ends, List.head?_reverse]

/-- A left-to-right line stays one. -/
theorem Begins.again (h : Begins .leftToRight items) : Begins .leftToRight (reordered items) := by
  rw [reordered_eq, visualOrder_of_begins h, if_pos rfl]
  exact begins_turnStretches_iff.mpr h

theorem reordered_reordered_of_begins (h : Begins .leftToRight items) :
    reordered (reordered items) = items := by
  have hagain := h.again
  rw [reordered_eq, visualOrder_of_begins hagain, if_pos rfl, reordered_eq,
    visualOrder_of_begins h, if_pos rfl]
  exact turnStretches_involutive _ items

/-- A right-to-left line is one again if its last run is right-to-left, for this run comes first. -/
theorem begins_reordered_iff (h : Begins .rightToLeft items) :
    Begins .rightToLeft (reordered items) ↔ Ends .rightToLeft items := by
  rw [reordered_eq, visualOrder_of_begins h, if_neg (by decide), begins_reverse_iff,
    ends_turnStretches_iff]

theorem reordered_reordered_of_ends (h : Begins .rightToLeft items)
    (hends : Ends .rightToLeft items) :
    reordered (reordered items) = items := by
  have hagain := (begins_reordered_iff h).mpr hends
  rw [reordered_eq, visualOrder_of_begins hagain, if_neg (by decide), reordered_eq,
    visualOrder_of_begins h, if_neg (by decide), turnStretches_reverse, List.reverse_reverse]
  exact turnStretches_involutive _ items

/-- Otherwise the last run comes first, and the line is left-to-right from then on. -/
theorem begins_reordered_of_ends (h : Begins .rightToLeft items) (hends : Ends .leftToRight items)
    (hdirected : AllDirected items) : Begins .leftToRight (reordered items) := by
  have hnot : ¬ Begins .rightToLeft (reordered items) := by
    rw [begins_reordered_iff h]
    rintro ⟨last, hlast, hleft⟩
    obtain ⟨last', hlast', hright⟩ := hends
    obtain rfl := Option.some.inj (hlast.symm.trans hlast')
    rw [hleft] at hright
    cases hright
  obtain ⟨first, hfirst, -⟩ := h
  have hne : reordered items ≠ [] := by
    rw [reordered_eq]
    intro hnil
    have hperm := visualOrder_perm items
    rw [hnil] at hperm
    rw [← hperm.nil_eq] at hfirst
    cases hfirst
  refine ⟨(reordered items).head hne, List.head?_eq_some_head hne, ?_⟩
  have hmem : (reordered items).head hne ∈ items := by
    rw [← (visualOrder_perm items).mem_iff, ← reordered_eq]
    exact List.head_mem hne
  refine (hdirected _ hmem).resolve_right fun hleft => hnot ?_
  exact ⟨_, List.head?_eq_some_head hne, hleft⟩

/-- A left-to-right line stays one however often it is put into order. -/
theorem Begins.iterate (h : Begins .leftToRight items) (n : Nat) :
    Begins .leftToRight (reordered^[n] items) := by
  induction n with
  | zero => exact h
  | succ n ih =>
    rw [Function.iterate_succ_apply']
    exact ih.again

theorem not_begins_of_begins {other : Direction} (hne : other ≠ line) (h : Begins line items) :
    ¬ Begins other items := by
  rintro ⟨first, hfirst, rfl⟩
  obtain ⟨first', hfirst', rfl⟩ := h
  obtain rfl := Option.some.inj (hfirst.symm.trans hfirst')
  exact hne rfl

/-- Directed runs that are there begin one way or the other, and end one way or the other. -/
theorem AllDirected.ends (h : AllDirected items) (hne : items ≠ []) :
    (Begins .leftToRight items ∨ Begins .rightToLeft items) ∧
      (Ends .leftToRight items ∨ Ends .rightToLeft items) := by
  have hfirst := List.head?_eq_some_head hne
  have hlast := List.getLast?_eq_some_getLast hne
  constructor
  · exact (h _ (List.head_mem hne)).imp (fun hd => ⟨_, hfirst, hd⟩) fun hd => ⟨_, hfirst, hd⟩
  · exact (h _ (List.getLast_mem hne)).imp (fun hd => ⟨_, hlast, hd⟩) fun hd => ⟨_, hlast, hd⟩

/-- Where putting into order is undone by doing it again: there are no runs, or one of the two ends
of the line is as in logical order of its direction. -/
def ComesBack (items : List Run) : Prop :=
  items = [] ∨ Begins .leftToRight items ∨ Ends .rightToLeft items

theorem AllDirected.comesBack_or (h : AllDirected items) :
    ComesBack items ∨ (Begins .rightToLeft items ∧ Ends .leftToRight items) := by
  rcases eq_or_ne items [] with hnil | hne
  · exact .inl (.inl hnil)
  · obtain ⟨hright | hleft, hends⟩ := h.ends hne
    · exact .inl (.inr (.inl hright))
    · rcases hends with hright | hends
      · exact .inr ⟨hleft, hright⟩
      · exact .inl (.inr (.inr hends))

theorem ComesBack.reordered_reordered (h : ComesBack items) (hdirected : AllDirected items) :
    reordered (reordered items) = items := by
  rcases h with rfl | hright | hends
  · rfl
  · exact reordered_reordered_of_begins hright
  · have hne : items ≠ [] := by
      rintro rfl
      obtain ⟨last, hlast, -⟩ := hends
      cases hlast
    rcases (hdirected.ends hne).1 with hright | hleft
    · exact reordered_reordered_of_begins hright
    · exact reordered_reordered_of_ends hleft hends

/-- The logical order of a line that begins right-to-left and ends left-to-right does not come
back, for its first run is never right-to-left again. -/
theorem iterate_reordered_ne (hbegins : Begins .rightToLeft items) (hends : Ends .leftToRight items)
    (hdirected : AllDirected items) (n : Nat) : reordered^[n + 1] items ≠ items := by
  have hright := (begins_reordered_of_ends hbegins hends hdirected).iterate n
  rw [← Function.iterate_succ_apply] at hright
  intro hback
  rw [hback] at hright
  exact not_begins_of_begins (by decide) hright hbegins

end Order

/-- What comes of putting directed runs into order again and again. From the first visual order on
there are at most two orders, by turns. The second time undoes the first one if and only if there
are no runs, the first one is left-to-right or the last one is right-to-left. Otherwise the line
begins right-to-left and ends left-to-right, and its logical order never comes back. -/
theorem reordered_alternates {items : List Run} (hdirected : AllDirected items) :
    reordered (reordered (reordered items)) = reordered items ∧
    (∀ n, reordered^[n + 3] items = reordered^[n + 1] items) ∧
    (reordered (reordered items) = items ↔
      items = [] ∨ Begins .leftToRight items ∨ Ends .rightToLeft items) ∧
    ((∀ n, reordered^[n + 1] items ≠ items) ↔
      Begins .rightToLeft items ∧ Ends .leftToRight items) := by
  have hthree : reordered (reordered (reordered items)) = reordered items := by
    rcases hdirected.comesBack_or with hback | ⟨hbegins, hends⟩
    · rw [hback.reordered_reordered hdirected]
    · exact reordered_reordered_of_begins (begins_reordered_of_ends hbegins hends hdirected)
  refine ⟨hthree, ?_, ?_, ?_⟩
  · intro n
    rw [Function.iterate_add_apply, Function.iterate_add_apply]
    exact congrArg _ hthree
  · constructor
    · intro hagain
      refine hdirected.comesBack_or.resolve_right ?_
      rintro ⟨hbegins, hends⟩
      exact iterate_reordered_ne hbegins hends hdirected 1 hagain
    · intro hback
      exact ComesBack.reordered_reordered hback hdirected
  · constructor
    · intro hnever
      refine hdirected.comesBack_or.resolve_left fun hback => ?_
      exact hnever 1 (hback.reordered_reordered hdirected)
    · rintro ⟨hbegins, hends⟩ n
      exact iterate_reordered_ne hbegins hends hdirected n

/-- A Hebrew word, an Arabic one and a number. -/
def wordsAndNumber : List Run :=
  [⟨0, 4, "Hebr", .rightToLeft⟩, ⟨4, 5, "Arab", .rightToLeft⟩, ⟨9, 2, "Zyyy", .leftToRight⟩]

/-- The number comes first and stays there, and behind it the words change places each time. -/
theorem reordered_alternates_wordsAndNumber :
    AllDirected wordsAndNumber ∧
    reordered wordsAndNumber = [⟨9, 2, "Zyyy", .leftToRight⟩, ⟨4, 5, "Arab", .rightToLeft⟩,
      ⟨0, 4, "Hebr", .rightToLeft⟩] ∧
    reordered (reordered wordsAndNumber) = [⟨9, 2, "Zyyy", .leftToRight⟩,
      ⟨0, 4, "Hebr", .rightToLeft⟩, ⟨4, 5, "Arab", .rightToLeft⟩] ∧
    reordered (reordered (reordered wordsAndNumber)) = reordered wordsAndNumber ∧
    ∀ n, reordered^[n + 1] wordsAndNumber ≠ wordsAndNumber := by
  have hdirected : AllDirected wordsAndNumber := by
    intro run hrun
    revert run
    decide
  obtain ⟨hthree, -, -, hnever⟩ := reordered_alternates hdirected
  refine ⟨hdirected, ?_, ?_, hthree, hnever.mpr ⟨⟨_, rfl, rfl⟩, ⟨_, rfl, rfl⟩⟩⟩
  · rw [reordered_eq]
    decide
  · rw [reordered_eq, reordered_eq]
    decide

end LineRuns.Run
