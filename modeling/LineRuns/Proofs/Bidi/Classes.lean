import LineRuns.Proofs.Bidi.Storage

/-!
# What becomes of classes

The weak passes and the neutral one rewrite classes until only those are left that have an implied
level. A pass brings in a few classes and leaves none of a few others, and a missing class is
outside all of this: no pass makes one, and no pass takes one away. `Leaves` says both, for any
property of classes, so that passes compose. Which classes can be brought in depends on those that
are there: the weak passes stay within each set of classes that is `Stable`, and the neutral pass
within what they leave and the sides around it (`leaves_stretch`).
-/

namespace LineRuns.Bidi

open Unicode (BidiClass)

/-- What a pass leaves all has the property, and a missing class stays. -/
structure Leaves (P : BidiClass → Prop) (before after : List BidiClass) : Prop where
  all : ∀ cls ∈ after, P cls
  missing : .unassigned ∈ before → .unassigned ∈ after

/-- The classes that have an implied level. -/
def HasImpliedLevel (cls : BidiClass) : Prop :=
  cls = .L ∨ cls = .R ∨ cls = .EN ∨ cls = .AN

variable {P Q M : BidiClass → Prop} {cls now previous strong : BidiClass}
  {classes before after : List BidiClass}

namespace Leaves

theorem nil : Leaves P [] [] :=
  ⟨fun _ h => absurd h List.not_mem_nil, id⟩

theorem cons (hnow : P now) (hmissing : cls = .unassigned → now = .unassigned)
    (h : Leaves P before after) : Leaves P (cls :: before) (now :: after) where
  all := List.forall_mem_cons.mpr ⟨hnow, h.all⟩
  missing hmem := by
    rcases List.mem_cons.mp hmem with hcls | hmem
    · rw [hmissing hcls.symm]
      exact List.mem_cons_self
    · exact List.mem_cons_of_mem now (h.missing hmem)

/-- A class that is rewritten under a condition, which no missing class meets. -/
theorem cons_if {p : Prop} [Decidable p] (hp : p → cls ≠ .unassigned) (hnow : p → P now)
    (hcls : ¬ p → P cls) (h : Leaves P before after) :
    Leaves P (cls :: before) ((if p then now else cls) :: after) := by
  refine cons ?_ ?_ h
  · split
    · rename_i hif
      exact hnow hif
    · rename_i hif
      exact hcls hif
  · intro hmissing
    rw [if_neg fun hif => hp hif hmissing]
    exact hmissing

/-- A pass may rewrite each class for itself. -/
theorem map {f : BidiClass → BidiClass} (hf : f .unassigned = .unassigned)
    (h : ∀ cls ∈ classes, P (f cls)) : Leaves P classes (classes.map f) where
  all := List.forall_mem_map.mpr h
  missing hmem := List.mem_map.mpr ⟨.unassigned, hmem, hf⟩

theorem trans {mid : List BidiClass} (h : Leaves P before mid) (h' : Leaves Q mid after) :
    Leaves Q before after :=
  ⟨h'.all, fun hmem => h'.missing (h.missing hmem)⟩

end Leaves

/-! ## The weak passes -/

/-- No mark stays a mark: it becomes what is before it. -/
theorem leaves_attachMarks (hprevious : P previous) (hstrong : strong = .AL → P .AL)
    (hAN : P .AL → P .EN → P .AN) (h : ∀ cls ∈ classes, cls ≠ .NSM → P cls) :
    Leaves P classes (attachMarks previous strong classes) := by
  induction classes generalizing previous strong with
  | nil => exact .nil
  | cons cls rest ih =>
    obtain ⟨hcls, hrest⟩ := List.forall_mem_cons.mp h
    have hattached : P (if cls = .NSM then previous else cls) := by
      split
      · exact hprevious
      · rename_i hmark
        exact hcls hmark
    -- a digit that came from a mark may become an Arabic one, too
    have hdigit : ∀ attached, P attached →
        P (if attached = .EN ∧ strong = .AL then .AN else attached) := by
      intro attached hattached
      split
      · rename_i hif
        exact hAN (hstrong hif.2) (hif.1 ▸ hattached)
      · exact hattached
    have hletter : ∀ now, P now →
        (if now = .R ∨ now = .L ∨ now = .AL then now else strong) = .AL → P .AL := by
      intro now hnow
      split
      · rintro rfl
        exact hnow
      · exact hstrong
    have hnow := hdigit _ hattached
    refine .cons hnow ?_ (ih hnow (hletter _ hnow) hrest)
    rintro rfl
    rfl

theorem leaves_map_plainLetter (hR : .AL ∈ classes → P .R)
    (h : ∀ cls ∈ classes, cls ≠ .AL → P cls) : Leaves P classes (classes.map plainLetter) := by
  refine .map rfl fun cls hcls => ?_
  unfold plainLetter
  split
  · rename_i hletter
    exact hR (hletter ▸ hcls)
  · rename_i hletter
    exact h cls hcls hletter

/-- A separator becomes a number only beside one. -/
theorem leaves_joinNumbers (h : ∀ cls ∈ classes, P cls) :
    Leaves P classes (joinNumbers previous classes) := by
  induction classes generalizing previous with
  | nil => exact .nil
  | cons cls rest ih =>
    obtain ⟨hcls, hrest⟩ := List.forall_mem_cons.mp h
    cases rest with
    | nil => exact .cons hcls id .nil
    | cons next rest =>
      have hnext : P next := (List.forall_mem_cons.mp hrest).1
      refine .cons ?_ ?_ (ih hrest)
      · split
        · rename_i hif
          exact hif.2.2 ▸ hnext
        · split
          · exact hnext
          · exact hcls
      · rintro rfl
        rfl

theorem leaves_joinInside (h : ∀ cls ∈ classes, P cls) :
    Leaves P classes (joinInside classes) := by
  cases classes with
  | nil => exact .nil
  | cons cls rest =>
    obtain ⟨hcls, hrest⟩ := List.forall_mem_cons.mp h
    exact .cons hcls id (leaves_joinNumbers hrest)

theorem leaves_terminatorsAfter (hprevious : previous = .EN → P .EN)
    (h : ∀ cls ∈ classes, P cls) : Leaves P classes (terminatorsAfter previous classes) := by
  induction classes generalizing previous with
  | nil => exact .nil
  | cons cls rest ih =>
    obtain ⟨hcls, hrest⟩ := List.forall_mem_cons.mp h
    refine .cons_if ?_ (fun hif => hprevious hif.2) (fun _ => hcls) (ih ?_ hrest)
    · rintro ⟨rfl, -⟩
      decide
    · split
      · rename_i hif
        exact fun _ => hprevious hif.2
      · exact fun hdigit => hdigit ▸ hcls

theorem leaves_terminatorsBefore (h : ∀ cls ∈ classes, P cls) :
    Leaves P classes (terminatorsBefore classes) := by
  induction classes with
  | nil => exact .nil
  | cons cls rest ih =>
    obtain ⟨hcls, hrest⟩ := List.forall_mem_cons.mp h
    have hdone := ih hrest
    refine .cons_if ?_ (fun hif => hdone.all _ (List.mem_of_head? hif.2)) (fun _ => hcls) hdone
    rintro ⟨rfl, -⟩
    decide

theorem leaves_map_plainMark (hON : P .ON)
    (h : ∀ cls ∈ classes, ¬ (cls = .ET ∨ cls = .ES ∨ cls = .CS) → P cls) :
    Leaves P classes (classes.map plainMark) := by
  refine .map rfl fun cls hcls => ?_
  unfold plainMark
  split
  · exact hON
  · rename_i hmark
    exact h cls hcls hmark

/-- European digits stay only where the last strong class is not left, be it the one at the start or
a right-to-left class among those before. -/
theorem leaves_leftNumbers (hL : P .EN → Q .L) (hEN : P .EN → strong ≠ .L ∨ P .R → Q .EN)
    (hother : ∀ cls, P cls → cls ≠ .EN → Q cls) (h : ∀ cls ∈ classes, P cls) :
    Leaves Q classes (leftNumbers strong classes) := by
  induction classes generalizing strong with
  | nil => exact .nil
  | cons cls rest ih =>
    obtain ⟨hcls, hrest⟩ := List.forall_mem_cons.mp h
    have hright : (if cls = .EN ∧ strong = .L then .L else cls) = .R → P .R := by
      split
      · exact fun h => by cases h
      · rintro rfl
        exact hcls
    have hnotLeft : ∀ now, (now = .R → P .R) →
        (if now = .L ∨ now = .R then now else strong) ≠ .L → strong ≠ .L ∨ P .R := by
      intro now hR
      split
      · rename_i hnow
        exact fun hne => .inr (hR (hnow.resolve_left hne))
      · exact .inl
    refine .cons_if ?_ (fun hif => hL (hif.1 ▸ hcls)) ?_ (ih ?_ hrest)
    · rintro ⟨rfl, -⟩
      decide
    · intro hif
      by_cases hdigit : cls = .EN
      · rw [hdigit] at hcls hif ⊢
        exact hEN hcls (.inl fun hstrong => hif ⟨rfl, hstrong⟩)
      · exact hother cls hcls hdigit
    · rintro hdigit (hstrong | hR)
      · exact hEN hdigit (hnotLeft _ hright hstrong)
      · exact hEN hdigit (.inr hR)

/-- A set of classes that no weak pass leads out of, marks apart. -/
structure Stable (M : BidiClass → Prop) : Prop where
  letter : M .AL → M .R
  arabic : M .AL → M .EN → M .AN
  left : M .EN → M .L
  neutral : M .ON

/-- The classes in the set `M` other than those that are gone. -/
def Without (gone : List BidiClass) (M : BidiClass → Prop) (cls : BidiClass) : Prop :=
  M cls ∧ cls ∉ gone

/-- The classes that the weak passes leave none of: terminators and separators, Arabic letters, and
marks. -/
def rewritten : List BidiClass :=
  [.ET, .ES, .CS, .AL, .NSM]

/-- What the weak passes leave of classes in the set `M`: of European digits, only those that a
right-to-left side or class can be before. -/
structure IsPlain (M : BidiClass → Prop) (sor : Side) (cls : BidiClass) : Prop where
  mem : M cls
  not_rewritten : cls ∉ rewritten
  digit : cls = .EN → sor = .R ∨ M .R

theorem leaves_resolveWeak {sor : Side} (hM : Stable M) (hsor : M sor.toClass)
    (h : ∀ cls ∈ classes, cls ≠ .NSM → M cls) :
    Leaves (IsPlain M sor) classes (resolveWeak sor classes) := by
  have hmark : sor.toClass ∉ [.NSM] := by cases sor <;> decide
  have hletter : sor.toClass ≠ .AL := by cases sor <;> decide
  have hside : sor.toClass ≠ .L → sor = .R := by cases sor <;> decide
  -- each pass leaves no class of another kind, and the passes after it bring none back
  have hmarked : Leaves (Without [.NSM] M) classes
      (attachMarks sor.toClass sor.toClass classes) :=
    leaves_attachMarks ⟨hsor, hmark⟩ (fun hAL => absurd hAL hletter)
      (fun hAL hEN => ⟨hM.arabic hAL.1 hEN.1, by decide⟩)
      fun cls hcls hne => ⟨h cls hcls hne, by simpa using hne⟩
  have hplain : Leaves (Without [.AL, .NSM] M) _ _ :=
    leaves_map_plainLetter (fun hAL => ⟨hM.letter (hmarked.all _ hAL).1, by decide⟩)
      fun cls hcls hne => (hmarked.all cls hcls).imp_right (List.not_mem_cons_of_ne_of_not_mem hne)
  have hjoined := leaves_joinInside hplain.all
  have hafter : Leaves _ _ (terminatorsAfter .ON _) :=
    leaves_terminatorsAfter (fun hON => by cases hON) hjoined.all
  have hbefore := leaves_terminatorsBefore hafter.all
  have hmarks : Leaves (Without rewritten M) _ _ :=
    leaves_map_plainMark ⟨hM.neutral, by decide⟩ fun cls hcls hne => by
      obtain ⟨hmem, hgone⟩ := hbefore.all cls hcls
      exact ⟨hmem, by simp_all [rewritten]⟩
  have hother : ∀ cls, Without rewritten M cls → cls ≠ .EN → IsPlain M sor cls :=
    fun cls hcls hne => ⟨hcls.1, hcls.2, fun hdigit => absurd hdigit hne⟩
  have hnumbers : Leaves (IsPlain M sor) _ (leftNumbers sor.toClass _) :=
    leaves_leftNumbers (fun hEN => hother .L ⟨hM.left hEN.1, by decide⟩ (by decide))
      (fun hEN hright => ⟨hEN.1, hEN.2, fun _ => hright.imp hside And.left⟩) hother hmarks.all
  exact ((((hmarked.trans hplain).trans hjoined).trans hafter).trans hbefore).trans
    (hmarks.trans hnumbers)

/-! ## The neutral pass -/

/-- No neutral stays one: between the sides that it lies, it becomes one of them or its own. -/
theorem leaves_neutralsFrom {eor left : BidiClass} {cells : List Cell}
    (hown : ∀ c ∈ cells, P (Side.ofLevel c.level).toClass) (hside : ∀ cls, P cls → P (asSide cls))
    (heor : P eor) (hleft : P left)
    (h : ∀ cls ∈ cells.map Cell.cls, isNeutral cls = false → P cls) :
    Leaves P (cells.map Cell.cls) ((neutralsFrom eor left cells).1.map Cell.cls) ∧
      P (neutralsFrom eor left cells).2 := by
  induction cells generalizing left with
  | nil => exact ⟨.nil, heor⟩
  | cons c rest ih =>
    rw [List.map_cons] at h
    obtain ⟨hcls, hrest⟩ := List.forall_mem_cons.mp h
    obtain ⟨hownc, hownrest⟩ := List.forall_mem_cons.mp hown
    rw [neutralsFrom]
    split
    · -- a neutral passes on the side to its left, and takes it or its own
      rename_i hneutral
      obtain ⟨hdone, hright⟩ := ih hownrest hleft hrest
      refine ⟨.cons ?_ ?_ hdone, hright⟩
      · show P (if _ then _ else _)
        split
        · exact hleft
        · exact hownc
      · intro hmissing
        rw [hmissing] at hneutral
        cases hneutral
    · -- any other class stays and is the side to the neutrals around it
      rename_i hneutral
      have hkept := hcls (Bool.not_eq_true _ ▸ hneutral)
      obtain ⟨hdone, -⟩ := ih hownrest (hside c.cls hkept) hrest
      exact ⟨.cons hkept id hdone, hside c.cls hkept⟩

/-! ## Stretches and lines -/

/-- The classes that keep a place among those that are resolved. -/
def IsRetained (cls : BidiClass) : Prop :=
  cls ∉ [.BN, .LRE, .LRO, .RLE, .RLO, .PDF, .LRI, .RLI, .FSI, .PDI]

/-- Of the classes that keep a place, those that no weak pass rewrites are neutral, have an implied
level, or are missing. -/
theorem IsRetained.settled (h : IsRetained cls) (hrewritten : cls ∉ rewritten)
    (hneutral : isNeutral cls = false) : HasImpliedLevel cls ∨ cls = .unassigned := by
  cases cls <;> simp_all [HasImpliedLevel, IsRetained, rewritten, isNeutral]

/-- A stretch is left with classes that have a property, if its sides have it and so has all but
neutrals that the weak passes leave. -/
theorem leaves_stretch {s : Stretch} (hM : Stable M) (hsor : M s.sor.toClass)
    (h : ∀ cls ∈ s.classes, cls ≠ .NSM → M cls)
    (hP : ∀ cls, IsPlain M s.sor cls → isNeutral cls = false → P cls)
    (hside : ∀ cls, P cls → P (asSide cls)) (hown : P (Side.ofLevel s.level).toClass)
    (hstart : P s.sor.toClass) (hstop : P s.eor.toClass) :
    Leaves P s.classes s.weak.neutral.classes := by
  have hweak : Leaves (IsPlain M s.sor) s.classes s.weak.classes := leaves_resolveWeak hM hsor h
  have hall := hweak.all
  rw [← s.weak.map_cls_cells] at hall
  have hlevels : ∀ c ∈ s.weak.cells, P (Side.ofLevel c.level).toClass :=
    List.forall_mem_map.mpr fun _ _ => hown
  obtain ⟨hneutral, -⟩ := leaves_neutralsFrom hlevels hside hstop hstart
    fun cls hcls => hP cls (hall cls hcls)
  rw [s.weak.map_cls_cells] at hneutral
  exact hweak.trans hneutral

/-- The passes leave classes that have an implied level, and missing ones if some were missing. -/
theorem leaves_settled (s : Stretch) (h : ∀ cls ∈ s.classes, IsRetained cls) :
    Leaves (fun cls => HasImpliedLevel cls ∨ cls = .unassigned ∧ .unassigned ∈ s.classes)
      s.classes s.weak.neutral.classes := by
  have himplied : ∀ side : Side, HasImpliedLevel side.toClass := by
    intro side
    cases side with
    | L => exact .inl rfl
    | R => exact .inr (.inl rfl)
  have hretained : ∀ side : Side, IsRetained side.toClass := by
    intro side
    cases side <;> simp [IsRetained, Side.toClass]
  have hassigned : ∀ side : Side, side.toClass ≠ .unassigned := by
    intro side
    cases side <;> decide
  have hstable : Stable fun cls => IsRetained cls ∧ (cls = .unassigned → .unassigned ∈ s.classes) :=
    ⟨fun _ => by simp [IsRetained], fun _ _ => by simp [IsRetained],
      fun _ => by simp [IsRetained], by simp [IsRetained]⟩
  refine leaves_stretch hstable ⟨hretained s.sor, fun h => absurd h (hassigned s.sor)⟩ ?_ ?_ ?_
    (.inl (himplied _)) (.inl (himplied _)) (.inl (himplied _))
  · exact fun cls hcls _ => ⟨h cls hcls, fun hmissing => hmissing ▸ hcls⟩
  · intro cls hplain hneutral
    obtain ⟨hcls, hmissing⟩ := hplain.mem
    exact (hcls.settled hplain.not_rewritten hneutral).imp_right fun heq => ⟨heq, hmissing heq⟩
  · intro cls hcls
    unfold asSide
    split
    · exact .inl (himplied .R)
    · exact hcls

theorem exists_impliedLevel (h : HasImpliedLevel cls) (level : Nat) :
    ∃ implied, impliedLevel cls level = some implied := by
  rcases h with rfl | rfl | rfl | rfl <;> exact ⟨_, rfl⟩

/-- Implied levels stop at a missing class, and at nothing else that the passes leave. -/
theorem imply_stops {cells : List Cell}
    (h : ∀ cls ∈ cells.map Cell.cls, HasImpliedLevel cls ∨ cls = .unassigned) :
    (imply cells).2 = if .unassigned ∈ cells.map Cell.cls then some .unassigned else none := by
  induction cells with
  | nil => rfl
  | cons c rest ih =>
    rw [List.map_cons] at h ⊢
    obtain ⟨hcls, hrest⟩ := List.forall_mem_cons.mp h
    rw [imply]
    rcases hcls with himplied | hmissing
    · obtain ⟨level, hlevel⟩ := exists_impliedLevel himplied c.level
      have hne : BidiClass.unassigned ≠ c.cls := by
        intro heq
        rw [← heq] at hlevel
        cases hlevel
      simp only [hlevel, ih hrest, List.mem_cons, hne, false_or]
    · simp [hmissing, impliedLevel]

/-- Implied levels of a line stop if one of its retained characters has no class, and only then. -/
theorem imply_settled_stops {raw : List BidiClass}
    (h : ∀ cls ∈ ((placesOf raw).filterMap id).map Cell.cls, IsRetained cls) :
    (imply (settled raw)).2 = if .unassigned ∈ ((placesOf raw).filterMap id).map Cell.cls
      then some .unassigned else none := by
  have hretained : ((placesOf raw).filterMap id).map Cell.cls =
      (stretchesOf raw).flatMap Stretch.classes := by
    rw [← flatMap_stretches (baseLevel raw) ((placesOf raw).filterMap id), List.map_flatMap]
    simp [stretchesOf]
  have hsettled : (settled raw).map Cell.cls =
      (stretchesOf raw).flatMap fun s => s.weak.neutral.classes := by
    simp [settled, List.map_flatMap]
  rw [hretained] at h ⊢
  have hleaves : ∀ s ∈ stretchesOf raw, Leaves
      (fun cls => HasImpliedLevel cls ∨ cls = .unassigned ∧ .unassigned ∈ s.classes)
      s.classes s.weak.neutral.classes :=
    fun s hs => leaves_settled s fun cls hcls => h cls (List.mem_flatMap.mpr ⟨s, hs, hcls⟩)
  have hmissing : .unassigned ∈ (settled raw).map Cell.cls ↔
      .unassigned ∈ (stretchesOf raw).flatMap Stretch.classes := by
    rw [hsettled, List.mem_flatMap, List.mem_flatMap]
    constructor
    · rintro ⟨s, hs, hmem⟩
      rcases (hleaves s hs).all .unassigned hmem with himplied | ⟨-, hmem⟩
      · simp [HasImpliedLevel] at himplied
      · exact ⟨s, hs, hmem⟩
    · rintro ⟨s, hs, hmem⟩
      exact ⟨s, hs, (hleaves s hs).missing hmem⟩
  rw [imply_stops, if_congr hmissing rfl rfl]
  intro cls hcls
  rw [hsettled] at hcls
  obtain ⟨s, hs, hcls⟩ := List.mem_flatMap.mp hcls
  exact ((hleaves s hs).all cls hcls).imp_right And.left

/-! ## Missing classes and overrides -/

namespace Embedding

/-- What keeps its place has a class that is resolved. -/
theorem place_retained (e : Embedding) (base : Nat) {cls : BidiClass} {c : Cell}
    (h : e.place base (withoutIsolates cls) = some c) : IsRetained c.cls := by
  obtain ⟨level, override, outer, overflow, skipped⟩ := e
  rcases override with _ | _ | _ <;> cases cls <;> cases h <;>
    simp [IsRetained, withoutIsolates, Side.toClass]

/-- A missing class is kept unless an override takes its place. -/
theorem place_unassigned_iff (e : Embedding) (base : Nat) (cls : BidiClass) :
    (e.place base (withoutIsolates cls)).map Cell.cls = some .unassigned ↔
      cls = .unassigned ∧ e.override = none := by
  obtain ⟨level, override, outer, overflow, skipped⟩ := e
  rcases override with _ | _ | _ <;> cases cls <;> simp [place, withoutIsolates, Side.toClass]

/-- Isolate controls change nothing for the characters after them. -/
@[simp] theorem after_withoutIsolates (e : Embedding) (base : Nat) (cls : BidiClass) :
    e.after base (withoutIsolates cls) = e.after base cls := by
  cases cls <;> rfl

end Embedding

private theorem mem_map_filterMap_iff {placed : List (Option Cell)} :
    cls ∈ (placed.filterMap id).map Cell.cls ↔ some cls ∈ placed.map (Option.map Cell.cls) := by
  simp

/-- All retained characters have classes that are resolved. -/
theorem places_retained (base : Nat) (e : Embedding) (raw : List BidiClass) :
    ∀ cls ∈ ((places base e (raw.map withoutIsolates)).filterMap id).map Cell.cls,
      IsRetained cls := by
  induction raw generalizing e with
  | nil => exact fun _ h => absurd h List.not_mem_nil
  | cons first rest ih =>
    intro cls hcls
    rw [mem_map_filterMap_iff, List.map_cons, places, List.map_cons] at hcls
    rcases List.mem_cons.mp hcls with hfirst | hcls
    · obtain ⟨c, hc, rfl⟩ := Option.map_eq_some_iff.mp hfirst.symm
      exact e.place_retained base hc
    · exact ih _ cls (mem_map_filterMap_iff.mpr hcls)

/-- A retained character has no class if one of the given classes is missing and the controls
before it leave no override in effect. -/
theorem unassigned_mem_places_iff (base : Nat) (e : Embedding) (raw : List BidiClass) :
    .unassigned ∈ ((places base e (raw.map withoutIsolates)).filterMap id).map Cell.cls ↔
      ∃ before rest, raw = before ++ .unassigned :: rest ∧
        (before.foldl (Embedding.after base) e).override = none := by
  induction raw generalizing e with
  | nil => simp [places]
  | cons first raw ih =>
    rw [mem_map_filterMap_iff, List.map_cons, places, List.map_cons, List.mem_cons, eq_comm,
      e.place_unassigned_iff, ← mem_map_filterMap_iff, e.after_withoutIsolates, ih]
    constructor
    · -- it is the first one, or a later one with the first among those before it
      rintro (⟨rfl, hnone⟩ | ⟨before, rest, rfl, hnone⟩)
      · exact ⟨[], raw, rfl, hnone⟩
      · exact ⟨first :: before, rest, rfl, hnone⟩
    · rintro ⟨before, rest, heq, hnone⟩
      cases before with
      | nil =>
        obtain ⟨rfl, rfl⟩ := List.cons.inj heq
        exact .inl ⟨rfl, hnone⟩
      | cons c before =>
        obtain ⟨rfl, rfl⟩ := List.cons.inj heq
        exact .inr ⟨before, rest, rfl, hnone⟩

end LineRuns.Bidi
