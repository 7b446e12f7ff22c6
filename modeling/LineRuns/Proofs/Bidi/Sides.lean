import LineRuns.Proofs.Bidi.Explicit
import Mathlib.Data.List.Forall2

/-!
# Classes that keep their side

Letters and digits come through the passes on the side that they belong to. A set of classes is
`Closed` if no pass takes a character out of it; the passes decide a few rewrites only, so this is
a matter of these few classes. `Kept` says it of the characters of a stretch one by one, and
`forall₂_levels` says it of a whole line: the level of a character is the implied level of a class
in the same closed set, at the explicit level that the character was given.
-/

namespace LineRuns.Bidi

open Unicode (BidiClass)

variable {P : BidiClass → Prop} {previous strong : BidiClass}
  {classes before after : List BidiClass}

/-! ## Closed sets -/

/-- A class that some pass rewrites whatever it is among: marks, separators and terminators of
numbers, and neutrals. -/
def IsPassing (cls : BidiClass) : Prop :=
  cls = .NSM ∨ cls = .ES ∨ cls = .ET ∨ cls = .CS ∨ isNeutral cls = true

instance : DecidablePred IsPassing :=
  fun _ => inferInstanceAs (Decidable (_ ∨ _))

/-- A set of classes that no pass leaves. Letters of the right may be Arabic before, and European
digits may be Arabic ones or letters of the left afterwards. -/
structure Closed (P : BidiClass → Prop) : Prop where
  letter : P .AL → P .R
  digit : P .EN → P .AN ∧ P .L
  not_passing : ∀ cls, P cls → ¬ IsPassing cls

/-- Left-to-right letters and all digits. -/
def IsLeftward (cls : BidiClass) : Prop :=
  cls = .L ∨ cls = .EN ∨ cls = .AN

/-- Right-to-left letters, Arabic ones included. -/
def IsRightward (cls : BidiClass) : Prop :=
  cls = .R ∨ cls = .AL

theorem closed_isLeftward : Closed IsLeftward where
  letter h := by simp [IsLeftward] at h
  digit _ := ⟨.inr (.inr rfl), .inl rfl⟩
  not_passing := by rintro cls (rfl | rfl | rfl) <;> decide

theorem closed_isRightward : Closed IsRightward where
  letter _ := .inl rfl
  digit h := by simp [IsRightward] at h
  not_passing := by rintro cls (rfl | rfl) <;> decide

/-- A strong class other than that of Arabic letters stays what it is. -/
theorem closed_toClass (side : Side) : Closed (· = side.toClass) where
  letter h := by cases side <;> cases h
  digit h := by cases side <;> cases h
  not_passing := by cases side <;> (rintro cls rfl; decide)

/-! ## The passes -/

/-- Each class of a set is still in it afterwards. -/
def Kept (P : BidiClass → Prop) (before after : List BidiClass) : Prop :=
  List.Forall₂ (fun cls now => P cls → P now) before after

/-- What is related one by one to a list in between is related one by one. -/
theorem forall₂_comp {α β γ : Type} {R : α → β → Prop} {S : β → γ → Prop} {as : List α}
    {bs : List β} {cs : List γ} (h : List.Forall₂ R as bs) (h' : List.Forall₂ S bs cs) :
    List.Forall₂ (fun a c => ∃ b, R a b ∧ S b c) as cs := by
  induction h generalizing cs with
  | nil =>
    cases h'
    exact .nil
  | cons hab _ ih =>
    cases h' with
    | cons hbc hrest => exact .cons ⟨_, hab, hbc⟩ (ih hrest)

/-- What is on the right is related to something on the left. -/
theorem exists_of_mem_right {α β : Type} {R : α → β → Prop} {as : List α} {bs : List β}
    (h : List.Forall₂ R as bs) {b : β} (hb : b ∈ bs) : ∃ a ∈ as, R a b := by
  induction h with
  | nil => exact absurd hb List.not_mem_nil
  | cons hab _ ih =>
    rcases List.mem_cons.mp hb with rfl | hb
    · exact ⟨_, List.mem_cons_self, hab⟩
    · obtain ⟨a, ha, hr⟩ := ih hb
      exact ⟨a, List.mem_cons_of_mem _ ha, hr⟩

theorem Kept.trans {mid : List BidiClass} (h : Kept P before mid) (h' : Kept P mid after) :
    Kept P before after := by
  refine (forall₂_comp h h').imp ?_
  rintro cls now ⟨between, hbetween, hnow⟩ hcls
  exact hnow (hbetween hcls)

/-- A pass may rewrite each class for itself. -/
theorem Kept.map {f : BidiClass → BidiClass} (h : ∀ cls, P cls → P (f cls)) :
    Kept P classes (classes.map f) := by
  rw [Kept, List.forall₂_map_right_iff, List.forall₂_same]
  exact fun cls _ => h cls

namespace Closed

variable (h : Closed P)
include h

theorem ne_of_isPassing {cls other : BidiClass} (hcls : P cls) (hother : IsPassing other) :
    cls ≠ other := by
  rintro rfl
  exact h.not_passing cls hcls hother

theorem kept_attachMarks : Kept P classes (attachMarks previous strong classes) := by
  induction classes generalizing previous strong with
  | nil => exact .nil
  | cons cls rest ih =>
    refine .cons (fun hcls => ?_) ih
    rw [if_neg (h.ne_of_isPassing hcls (by decide))]
    split
    · rename_i hdigit
      exact (h.digit (hdigit.1 ▸ hcls)).1
    · exact hcls

theorem kept_map_plainLetter : Kept P classes (classes.map plainLetter) := by
  refine .map fun cls hcls => ?_
  unfold plainLetter
  split
  · rename_i hletter
    exact h.letter (hletter ▸ hcls)
  · exact hcls

theorem kept_joinNumbers : Kept P classes (joinNumbers previous classes) := by
  induction classes generalizing previous with
  | nil => exact .nil
  | cons cls rest ih =>
    cases rest with
    | nil => exact .cons id .nil
    | cons next rest =>
      refine .cons (fun hcls => ?_) ih
      have hES : cls ≠ .ES := h.ne_of_isPassing hcls (by decide)
      have hCS : cls ≠ .CS := h.ne_of_isPassing hcls (by decide)
      simpa [hES, hCS] using hcls

theorem kept_joinInside : Kept P classes (joinInside classes) := by
  cases classes with
  | nil => exact .nil
  | cons cls rest => exact .cons id h.kept_joinNumbers

theorem kept_terminatorsAfter : Kept P classes (terminatorsAfter previous classes) := by
  induction classes generalizing previous with
  | nil => exact .nil
  | cons cls rest ih =>
    refine .cons (fun hcls => ?_) ih
    have hET : cls ≠ .ET := h.ne_of_isPassing hcls (by decide)
    simpa [hET] using hcls

theorem kept_terminatorsBefore : Kept P classes (terminatorsBefore classes) := by
  induction classes with
  | nil => exact .nil
  | cons cls rest ih =>
    refine .cons (fun hcls => ?_) ih
    have hET : cls ≠ .ET := h.ne_of_isPassing hcls (by decide)
    simpa [hET] using hcls

theorem kept_map_plainMark : Kept P classes (classes.map plainMark) := by
  refine .map fun cls hcls => ?_
  have hET : cls ≠ .ET := h.ne_of_isPassing hcls (by decide)
  have hES : cls ≠ .ES := h.ne_of_isPassing hcls (by decide)
  have hCS : cls ≠ .CS := h.ne_of_isPassing hcls (by decide)
  simpa [plainMark, hET, hES, hCS] using hcls

theorem kept_leftNumbers : Kept P classes (leftNumbers strong classes) := by
  induction classes generalizing strong with
  | nil => exact .nil
  | cons cls rest ih =>
    refine .cons (fun hcls => ?_) ih
    split
    · rename_i hdigit
      exact (h.digit (hdigit.1 ▸ hcls)).2
    · exact hcls

theorem kept_resolveWeak (sor : Side) : Kept P classes (resolveWeak sor classes) := by
  have hmarked : Kept P classes (attachMarks sor.toClass sor.toClass classes) := h.kept_attachMarks
  have hplain := hmarked.trans h.kept_map_plainLetter
  have hjoined := hplain.trans h.kept_joinInside
  have hafter : Kept P classes (terminatorsAfter .ON _) := hjoined.trans h.kept_terminatorsAfter
  have hbefore := hafter.trans h.kept_terminatorsBefore
  exact (hbefore.trans h.kept_map_plainMark).trans h.kept_leftNumbers

theorem kept_neutralsFrom {eor left : BidiClass} {cells : List Cell} :
    Kept P (cells.map Cell.cls) ((neutralsFrom eor left cells).1.map Cell.cls) := by
  induction cells generalizing left with
  | nil => exact .nil
  | cons c rest ih =>
    rw [neutralsFrom]
    split
    · -- a neutral is in no such set
      rename_i hneutral
      refine .cons (fun hcls => ?_) ih
      exact absurd (.inr (.inr (.inr (.inr hneutral)))) (h.not_passing c.cls hcls)
    · exact .cons id ih

/-- A stretch keeps each of its classes in the set. -/
theorem kept_stretch (s : Stretch) : Kept P s.classes s.weak.neutral.classes := by
  have hweak : Kept P s.classes s.weak.classes := h.kept_resolveWeak s.sor
  refine hweak.trans ?_
  have hneutral : Kept P (s.weak.cells.map Cell.cls) s.weak.neutral.classes :=
    h.kept_neutralsFrom
  rwa [Stretch.map_cls_cells] at hneutral

end Closed

/-! ## Lines -/

/-- What the characters of a line are settled as: each at the level that it was given, and in a
closed set if it was in it. -/
theorem Closed.forall₂_settled (h : Closed P) (raw : List BidiClass) :
    List.Forall₂ (fun c d : Cell => d.level = c.level ∧ (P c.cls → P d.cls))
      ((placesOf raw).filterMap id) (settled raw) := by
  rw [← flatMap_stretches (baseLevel raw) ((placesOf raw).filterMap id)]
  show List.Forall₂ _ ((stretchesOf raw).flatMap Stretch.cells) _
  rw [settled]
  induction stretchesOf raw with
  | nil => exact .nil
  | cons s rest ih =>
    rw [List.flatMap_cons, List.flatMap_cons]
    refine List.rel_append ?_ ih
    have hkept := h.kept_stretch s
    rw [Stretch.cells, Stretch.cells, List.forall₂_map_left_iff, List.forall₂_map_right_iff]
    exact hkept.imp fun _ _ hcls => ⟨rfl, hcls⟩

/-- Implied levels that nothing stops are those of the cells, one by one. -/
theorem forall₂_imply {cells : List Cell} (h : (imply cells).2 = none) :
    List.Forall₂ (fun c level => impliedLevel c.cls c.level = some level) cells
      ((imply cells).1.map Cell.level) := by
  induction cells with
  | nil => exact .nil
  | cons c rest ih =>
    rw [imply] at h ⊢
    cases hlevel : impliedLevel c.cls c.level with
    | none =>
      rw [hlevel] at h
      cases h
    | some level =>
      rw [hlevel] at h
      exact .cons hlevel (ih h)

/-- What holds of the retained characters and their levels holds of the characters that keep a
place. -/
theorem forall₂_inherit {R : Cell → Nat → Prop} {placed : List (Option Cell)} {levels : List Nat}
    (h : List.Forall₂ R (placed.filterMap id) levels) (before : Nat) :
    List.Forall₂ (fun p level => ∀ c, p = some c → R c level) placed
      (inherit before placed levels) := by
  induction placed generalizing before levels with
  | nil => exact .nil
  | cons p rest ih =>
    cases p with
    | none => exact .cons (fun c hc => by cases hc) (ih h before)
    | some c =>
      replace h : List.Forall₂ R (c :: rest.filterMap id) levels := h
      cases h with
      | cons hc hrest =>
        refine .cons (fun d hd => ?_) (ih hrest _)
        obtain rfl := Option.some.inj hd
        exact hc

/-- An inherited level is one of the given levels, or the level before them. -/
theorem forall_mem_inherit {Q : Nat → Prop} {before : Nat} {placed : List (Option Cell)}
    {levels : List Nat} (hbefore : Q before) (h : ∀ level ∈ levels, Q level) :
    ∀ level ∈ inherit before placed levels, Q level := by
  induction placed generalizing before levels with
  | nil => exact fun level hlevel => absurd hlevel List.not_mem_nil
  | cons p rest ih =>
    cases p with
    | none => exact List.forall_mem_cons.mpr ⟨hbefore, ih hbefore h⟩
    | some c =>
      cases levels with
      | nil => exact List.forall_mem_cons.mpr ⟨hbefore, ih hbefore h⟩
      | cons level levels =>
        obtain ⟨hlevel, hrest⟩ := List.forall_mem_cons.mp h
        exact List.forall_mem_cons.mpr ⟨hlevel, ih hlevel hrest⟩

/-- The level of a character that keeps its place is the implied level of some class at its
explicit level, and this class is in each closed set that its own class is in. -/
theorem Closed.forall₂_levels (hP : Closed P) {raw : List BidiClass} {fault : Option Text}
    {levels : List Nat} (h : (resolve raw fault).levels = .ok levels) :
    List.Forall₂ (fun p level => ∀ c, p = some c →
      ∃ cls, (P c.cls → P cls) ∧ impliedLevel cls c.level = some level) (placesOf raw) levels := by
  obtain ⟨-, hstopped, rfl⟩ := levels_resolve_eq_ok_iff.mp h
  refine forall₂_inherit ?_ (baseLevel raw)
  refine (forall₂_comp (hP.forall₂_settled raw) (forall₂_imply hstopped)).imp ?_
  rintro c level ⟨d, ⟨hlevel, hcls⟩, himplied⟩
  exact ⟨d.cls, hcls, hlevel ▸ himplied⟩

/-- The characters of a line are settled at the levels that they were given. -/
theorem map_level_settled (raw : List BidiClass) :
    (settled raw).map Cell.level = ((placesOf raw).filterMap id).map Cell.level := by
  rw [← List.forall₂_eq_eq_eq, List.forall₂_map_left_iff, List.forall₂_map_right_iff]
  exact ((closed_isLeftward.forall₂_settled raw).imp fun _ _ h => h.1).flip

/-- What holds of the base level, and of the implied levels of all settled characters, holds of all
levels: those of removed characters are among these. -/
theorem forall_mem_levels {Q : Nat → Prop} {raw : List BidiClass} {fault : Option Text}
    {levels : List Nat} (h : (resolve raw fault).levels = .ok levels) (hbase : Q (baseLevel raw))
    (hcells : ∀ c ∈ settled raw, ∀ level, impliedLevel c.cls c.level = some level → Q level) :
    ∀ level ∈ levels, Q level := by
  obtain ⟨-, hstopped, rfl⟩ := levels_resolve_eq_ok_iff.mp h
  refine forall_mem_inherit hbase fun level hlevel => ?_
  obtain ⟨c, hc, himplied⟩ := exists_of_mem_right (forall₂_imply hstopped) hlevel
  exact hcells c hc level himplied

/-! ## Levels of letters and digits -/

theorem IsLeftward.isRemoved_eq {cls : BidiClass} (h : IsLeftward cls) :
    isRemoved cls = false := by
  rcases h with rfl | rfl | rfl <;> rfl

theorem IsRightward.isRemoved_eq {cls : BidiClass} (h : IsRightward cls) :
    isRemoved cls = false := by
  rcases h with rfl | rfl <;> rfl

/-- Letters and digits that are read to the right come to an even level. -/
theorem IsLeftward.even {cls : BidiClass} (h : IsLeftward cls) {level implied : Nat}
    (himplied : impliedLevel cls level = some implied) : implied % 2 = 0 := by
  rcases h with rfl | rfl | rfl
  all_goals
    simp only [impliedLevel, Option.some.injEq] at himplied
    split at himplied <;> omega

/-- Letters that are read to the left come to an odd level. -/
theorem IsRightward.odd {cls : BidiClass} (h : IsRightward cls) {level implied : Nat}
    (himplied : impliedLevel cls level = some implied) : implied % 2 = 1 := by
  rcases h with rfl | rfl
  · simp only [impliedLevel, Option.some.injEq] at himplied
    split at himplied <;> omega
  · cases himplied

/-- A level that is what a class and the override in effect ask for: without an override, even for
letters and digits that are read to the right and odd for letters that are read to the left; with
one, even or odd as the override has it, whatever the class. Paragraph separators are not
overridden. -/
structure Suits (level : Nat) (cls : BidiClass) (override : Option Side) : Prop where
  leftward : override = none → IsLeftward cls → level % 2 = 0
  rightward : override = none → IsRightward cls → level % 2 = 1
  overriddenLeft : override = some .L → cls ≠ .B → level % 2 = 0
  overriddenRight : override = some .R → cls ≠ .B → level % 2 = 1

/-! ## Single characters -/

section Single

variable {before rest : List BidiClass} {cls : BidiClass} {e : Embedding} {fault : Option Text}
  {levels : List Nat} {level : Nat}
  (h : (resolve (before ++ cls :: rest) fault).levels = .ok levels)

include h

/-- Each character has a level. -/
theorem exists_getElem?_levels : ∃ level, levels[before.length]? = some level := by
  have hlength := (closed_isLeftward.forall₂_levels h).length_eq
  rw [placesOf, length_places, List.length_map, List.length_append, List.length_cons] at hlength
  exact ⟨_, List.getElem?_eq_getElem (by omega)⟩

variable (he : e = before.foldl (Embedding.after (baseLevel (before ++ cls :: rest)))
    (.start (baseLevel (before ++ cls :: rest)))) (hremoved : isRemoved cls = false)

include he hremoved

/-- The level of a character that is not removed, under what the characters before it leave in
effect. -/
theorem Closed.exists_implied (hP : Closed P) (hB : cls ≠ .B)
    (hlevel : levels[before.length]? = some level) :
    ∃ now, (P (e.classUnder cls) → P now) ∧ impliedLevel now e.level = some level := by
  have hplace : (placesOf (before ++ cls :: rest))[before.length]? =
      some (some ⟨e.classUnder cls, e.level⟩) := by
    rw [placesOf_append, ← he, List.getElem?_append_right (by simp [length_places]),
      length_places, List.length_map, Nat.sub_self, List.map_cons, places,
      e.place_eq_some _ hremoved hB]
    rfl
  obtain ⟨hplaced, hcell⟩ := List.getElem?_eq_some_iff.mp hplace
  obtain ⟨hleveled, hget⟩ := List.getElem?_eq_some_iff.mp hlevel
  have hrelated := (hP.forall₂_levels h).get hplaced hleveled
  rw [List.get_eq_getElem, List.get_eq_getElem, hcell, hget] at hrelated
  exact hrelated _ rfl

/-- Where no override is in effect, the class itself stays in the set. -/
theorem Closed.exists_implied_of_none (hP : Closed P)
    (hlevel : levels[before.length]? = some level) (hnone : e.override = none) (hcls : P cls)
    (hplain : withoutIsolates cls = cls) :
    ∃ now, P now ∧ impliedLevel now e.level = some level := by
  have hB : cls ≠ .B := hP.ne_of_isPassing hcls (by decide)
  obtain ⟨now, hnow, himplied⟩ := hP.exists_implied h he hremoved hB hlevel
  have hclass : e.classUnder cls = cls := by
    rw [Embedding.classUnder, hnone, hplain]
    rfl
  exact ⟨now, hnow (hclass.symm ▸ hcls), himplied⟩

/-- Every character that is not removed comes to a level that suits its class and the override in
effect. -/
theorem exists_suits :
    ∃ level, levels[before.length]? = some level ∧ Suits level cls e.override := by
  obtain ⟨level, hlevel⟩ := exists_getElem?_levels h
  have hoverridden : ∀ side, e.override = some side → cls ≠ .B →
      impliedLevel side.toClass e.level = some level := by
    intro side hoverride hB
    obtain ⟨now, hnow, himplied⟩ := (closed_toClass side).exists_implied h he hremoved hB hlevel
    have hclass : e.classUnder cls = side.toClass := by
      rw [Embedding.classUnder, hoverride]
      rfl
    rwa [hnow hclass] at himplied
  refine ⟨level, hlevel, ?_, ?_, ?_, ?_⟩
  · intro hnone hcls
    have hplain : withoutIsolates cls = cls := by rcases hcls with rfl | rfl | rfl <;> rfl
    obtain ⟨now, hnow, himplied⟩ :=
      closed_isLeftward.exists_implied_of_none h he hremoved hlevel hnone hcls hplain
    exact hnow.even himplied
  · intro hnone hcls
    have hplain : withoutIsolates cls = cls := by rcases hcls with rfl | rfl <;> rfl
    obtain ⟨now, hnow, himplied⟩ :=
      closed_isRightward.exists_implied_of_none h he hremoved hlevel hnone hcls hplain
    exact hnow.odd himplied
  · intro hoverride hB
    exact IsLeftward.even (.inl rfl) (hoverridden .L hoverride hB)
  · intro hoverride hB
    exact IsRightward.odd (.inl rfl) (hoverridden .R hoverride hB)

end Single

end LineRuns.Bidi
