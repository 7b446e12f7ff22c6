import LineRuns.Proofs.Bidi.Classes

/-!
# Controls and what they leave in effect

What a control does to the characters behind it goes through the `Embedding` alone. An initiator
is undone by the end that belongs to it, at every depth (`terminate_initiate`): the two counters
never mix, because initiators are skipped only at level 60, and a level opened after that is 61 and
ends first. `Valid` states this of all embeddings that controls can lead to. So controls that are
balanced by themselves leave in effect what was in effect before them (`foldl_after_balanced`).

What is in effect can be said without the counters. Ends close initiators as brackets do, the
innermost first (`stillOpen`), and of the initiators that are open each takes effect for which there
is a level below the limit (`under`). The embedding behind any characters agrees with it
(`foldl_after_eq_under`).
-/

namespace LineRuns.Bidi

open Unicode (BidiClass)

/-- Controls of embeddings and boundary neutrals keep no place. -/
def isRemoved : BidiClass → Bool
  | .RLE | .RLO | .LRE | .LRO | .PDF | .BN => true
  | _ => false

/-- The class of an initiator of an embedding or override. -/
def isInitiator : BidiClass → Bool
  | .RLE | .RLO | .LRE | .LRO => true
  | _ => false

/-- Whether controls and boundary neutrals end what they open and, before that, `opened` others;
no end is without an initiator, and no initiator without an end. -/
def isBalancedFrom : (opened : Nat) → List BidiClass → Bool
  | opened, [] => opened == 0
  | opened, .BN :: rest => isBalancedFrom opened rest
  | 0, .PDF :: _ => false
  | opened + 1, .PDF :: rest => isBalancedFrom opened rest
  | opened, cls :: rest => isInitiator cls && isBalancedFrom (opened + 1) rest

/-- Controls and boundary neutrals that are balanced by themselves. -/
def isBalanced (classes : List BidiClass) : Bool :=
  isBalancedFrom 0 classes

/-- A character of class `cls` keeps this class without an override, and is given the side of the
override with one. -/
def Embedding.classUnder (e : Embedding) (cls : BidiClass) : BidiClass :=
  (e.override.map Side.toClass).getD (withoutIsolates cls)

namespace Embedding

variable {base : Nat} {e e' : Embedding} {cls : BidiClass} {classes : List BidiClass}

/-! ## Places -/

theorem isSome_place (base : Nat) (e : Embedding) (cls : BidiClass) :
    (e.place base (withoutIsolates cls)).isSome = !isRemoved cls := by
  cases cls <;> rfl

/-- What is not removed and no paragraph separator has the level in effect. -/
theorem place_eq_some (base : Nat) (e : Embedding) (hremoved : isRemoved cls = false)
    (hB : cls ≠ .B) :
    e.place base (withoutIsolates cls) = some ⟨e.classUnder cls, e.level⟩ := by
  cases cls with
  | RLE | RLO | LRE | LRO | PDF | BN => cases hremoved
  | B => exact absurd rfl hB
  | _ => rfl

/-! ## Initiators and ends -/

/-- What controls can lead to: initiators are skipped only while level 60 is in effect, or level 61
that was opened right from it. -/
def Valid (e : Embedding) : Prop :=
  e.skipped ≠ 0 → e.level = 60 ∨ e.level = 61 ∧ ∃ override rest, e.outer = (60, override) :: rest

theorem valid_start (base : Nat) : (start base).Valid :=
  fun h => absurd rfl h

/-- The levels that an initiator may ask for, the next of either parity. -/
def IsNext (e : Embedding) (level : Nat) : Prop :=
  level = nextOdd e.level ∨ level = nextEven e.level

/-- Where initiators are skipped, the one level that finds room is 61, opened from level 60. -/
theorem Valid.level_eq (h : e.Valid) (hskipped : e.skipped ≠ 0) {level : Nat}
    (hnext : e.IsNext level) (hroom : level < limit) : e.level = 60 ∧ level = 61 := by
  unfold IsNext nextOdd nextEven at hnext
  unfold limit at hroom
  have hlevel := h hskipped
  omega

theorem Valid.initiate (h : e.Valid) {level : Nat} (hnext : e.IsNext level)
    (override : Option Side) : (e.initiate level override).Valid := by
  unfold Embedding.initiate
  split
  · exact h
  · split
    · rename_i hroom
      intro hskipped
      obtain ⟨h60, h61⟩ := h.level_eq hskipped hnext hroom
      exact .inr ⟨h61, e.override, e.outer, by rw [h60]⟩
    · split
      · rename_i h60
        exact fun _ => .inl h60
      · exact h

theorem Valid.terminate (h : e.Valid) : e.terminate.Valid := by
  unfold Embedding.terminate
  split
  · exact h
  · split
    · rename_i hskipped
      intro _
      rcases h hskipped.1 with h60 | ⟨h61, -⟩
      · exact .inl h60
      · exact absurd h61 hskipped.2
    · rename_i hopen
      split
      · exact h
      · -- what is closed here is level 61, and level 60 is behind it
        rename_i level override outer houter
        intro hskipped
        rcases h hskipped with h60 | ⟨-, override', rest, h61⟩
        · exact absurd ⟨hskipped, by omega⟩ hopen
        · rw [houter] at h61
          exact .inl (Prod.mk.inj (List.cons.inj h61).1).1

theorem Valid.after (h : e.Valid) (base : Nat) (cls : BidiClass) : (e.after base cls).Valid := by
  cases cls with
  | RLE | RLO => exact h.initiate (.inl rfl) _
  | LRE | LRO => exact h.initiate (.inr rfl) _
  | PDF => exact h.terminate
  | B => exact valid_start base
  | _ => exact h

theorem Valid.foldl_after (h : e.Valid) (base : Nat) (classes : List BidiClass) :
    (classes.foldl (Embedding.after base) e).Valid := by
  induction classes generalizing e with
  | nil => exact h
  | cons cls rest ih => exact ih (h.after base cls)

/-- The end that comes next undoes an initiator, whether it opened its level or was counted. -/
theorem terminate_initiate (h : e.Valid) {level : Nat} (hnext : e.IsNext level)
    (override : Option Side) : (e.initiate level override).terminate = e := by
  unfold initiate
  split
  · simp [terminate]
  · rename_i hoverflow
    split
    · -- a level that was opened is not taken for a skipped one
      rename_i hroom
      have hopen : ¬ (e.skipped ≠ 0 ∧ level ≠ 61) := by
        rintro ⟨hskipped, h61⟩
        exact h61 (h.level_eq hskipped hnext hroom).2
      rw [terminate, if_neg hoverflow, if_neg hopen]
    · split
      · rename_i h60
        have hskipped : e.skipped + 1 ≠ 0 ∧ e.level ≠ 61 := by omega
        rw [terminate, if_neg hoverflow, if_pos hskipped, Nat.add_sub_cancel]
      · simp [terminate]

/-! ## Balanced controls -/

/-- What `e` becomes under initiators that are still open. -/
inductive Opened (e : Embedding) : Nat → Embedding → Prop
  | none : Opened e 0 e
  | one {n : Nat} {e' : Embedding} {level : Nat} (override : Option Side) :
      Opened e n e' → e'.Valid → e'.IsNext level → Opened e (n + 1) (e'.initiate level override)

theorem Opened.valid {n : Nat} (h : Opened e n e') (hvalid : e.Valid) : e'.Valid := by
  cases h with
  | none => exact hvalid
  | one override _ hvalid' hnext => exact hvalid'.initiate hnext override

/-- Controls that end what is open, and all that they open themselves, lead back. -/
theorem Opened.foldl_after {n : Nat} (h : Opened e n e') (hvalid : e.Valid)
    (hz : isBalancedFrom n classes = true) : classes.foldl (Embedding.after base) e' = e := by
  induction classes generalizing n e' with
  | nil =>
    simp only [isBalancedFrom, beq_iff_eq] at hz
    subst hz
    cases h
    rfl
  | cons cls rest ih =>
    have hinitiator : ∀ level override, e'.IsNext level →
        isBalancedFrom (n + 1) rest = true →
          rest.foldl (Embedding.after base) (e'.initiate level override) = e :=
      fun level override hnext => ih (.one override h (h.valid hvalid) hnext)
    cases cls with
    | BN => exact ih h hz
    | RLE | RLO => exact hinitiator _ _ (.inl rfl) hz
    | LRE | LRO => exact hinitiator _ _ (.inr rfl) hz
    | PDF =>
      cases h with
      | none => cases hz
      | one override hopened hvalid' hnext =>
        rw [List.foldl_cons]
        show rest.foldl (Embedding.after base) (Embedding.terminate _) = e
        rw [terminate_initiate hvalid' hnext]
        exact ih hopened hz
    | _ => cases hz

/-- Controls that are balanced by themselves leave in effect what was in effect before them. -/
theorem Valid.foldl_after_balanced (h : e.Valid) (hz : isBalanced classes = true) :
    classes.foldl (Embedding.after base) e = e :=
  Opened.none.foldl_after h hz

/-! ## Open initiators -/

/-- The initiators that are open behind a character, the innermost first: an initiator is opened, an
end closes the innermost whatever became of it, and a paragraph separator closes all. -/
def stillOpen (opened : List BidiClass) (cls : BidiClass) : List BidiClass :=
  if isInitiator cls then cls :: opened
  else if cls = .PDF then opened.tail
  else if cls = .B then []
  else opened

/-- The level that an initiator asks for. -/
def levelFor (level : Nat) : BidiClass → Nat
  | .RLE | .RLO => nextOdd level
  | _ => nextEven level

/-- The override that an initiator brings. -/
def overrideFor : BidiClass → Option Side
  | .RLO => some .R
  | .LRO => some .L
  | _ => none

/-- The level and the override under open initiators, the innermost first. One that asks for a level
below the limit has it and its override; one that asks for more changes nothing. -/
def under (base : Nat) : List BidiClass → Nat × Option Side
  | [] => (base, none)
  | cls :: outer =>
    let (level, override) := under base outer
    if levelFor level cls < limit then (levelFor level cls, overrideFor cls) else (level, override)

/-- The limit cuts in at level 60, from where right-to-left initiators have one more level. -/
theorem levelFor_lt_limit_iff {level : Nat} (h : isInitiator cls = true) :
    levelFor level cls < limit ↔ level < 60 ∨ level = 60 ∧ (cls = .RLE ∨ cls = .RLO) := by
  cases cls with
  | RLE | RLO => simp [levelFor, nextOdd, limit]; omega
  | LRE | LRO => simp [levelFor, nextEven, limit]; omega
  | _ => cases h

/-- What controls leave in effect if only these initiators are open. -/
def ofOpened (base : Nat) (opened : List BidiClass) : Embedding :=
  opened.foldr (fun cls e => e.after base cls) (start base)

/-- Embeddings are counted as overflow only where no initiator has room, and levels stay below the
limit. -/
def Counted (e : Embedding) : Prop :=
  e.level < limit ∧ (e.overflow ≠ 0 → e.level = 61)

theorem after_of_isInitiator (base : Nat) (e : Embedding) (h : isInitiator cls = true) :
    e.after base cls = e.initiate (levelFor e.level cls) (overrideFor cls) ∧
      e.IsNext (levelFor e.level cls) := by
  cases cls with
  | RLE | RLO => exact ⟨rfl, .inl rfl⟩
  | LRE | LRO => exact ⟨rfl, .inr rfl⟩
  | _ => cases h

theorem isInitiator_of_mem_stillOpen {opened : List BidiClass}
    (h : ∀ c ∈ opened, isInitiator c = true) :
    ∀ c ∈ stillOpen opened cls, isInitiator c = true := by
  intro c hc
  unfold stillOpen at hc
  split at hc
  · rename_i hcls
    rcases List.mem_cons.mp hc with rfl | hc
    · exact hcls
    · exact h c hc
  · split at hc
    · exact h c (List.mem_of_mem_tail hc)
    · split at hc
      · exact absurd hc List.not_mem_nil
      · exact h c hc

theorem valid_ofOpened (base : Nat) (opened : List BidiClass) : (ofOpened base opened).Valid := by
  induction opened with
  | nil => exact valid_start base
  | cons cls outer ih => exact ih.after base cls

/-- What is in effect depends on the open initiators alone. -/
theorem after_ofOpened {opened : List BidiClass} (h : ∀ c ∈ opened, isInitiator c = true) :
    (ofOpened base opened).after base cls = ofOpened base (stillOpen opened cls) := by
  cases cls with
  | PDF =>
    cases opened with
    | nil => rfl
    | cons c outer =>
      -- the end undoes the innermost initiator, whether it had room or not
      obtain ⟨hafter, hnext⟩ :=
        after_of_isInitiator base (ofOpened base outer) (h c List.mem_cons_self)
      show ((ofOpened base outer).after base c).terminate = ofOpened base outer
      rw [hafter, terminate_initiate (valid_ofOpened base outer) hnext]
  | _ => rfl

theorem foldl_after_ofOpened (base : Nat) {opened : List BidiClass}
    (h : ∀ c ∈ opened, isInitiator c = true) (classes : List BidiClass) :
    (∀ c ∈ classes.foldl stillOpen opened, isInitiator c = true) ∧
      classes.foldl (Embedding.after base) (ofOpened base opened) =
        ofOpened base (classes.foldl stillOpen opened) := by
  induction classes generalizing opened with
  | nil => exact ⟨h, rfl⟩
  | cons cls rest ih =>
    rw [List.foldl_cons, List.foldl_cons, after_ofOpened h]
    exact ih (isInitiator_of_mem_stillOpen h)

/-- The counters do not show in what is in effect. -/
theorem Counted.initiate (h : e.Counted) {level : Nat} (hnext : e.IsNext level)
    (override : Option Side) :
    (e.initiate level override).Counted ∧
      ((e.initiate level override).level, (e.initiate level override).override) =
        if level < limit then (level, override) else (e.level, e.override) := by
  obtain ⟨hlimit, hoverflow⟩ := h
  unfold IsNext nextOdd nextEven at hnext
  unfold limit at hlimit
  unfold Embedding.initiate Counted limit
  by_cases hcount : e.overflow = 0
  · by_cases hroom : level < 62
    · simp [hcount, hroom]
    · by_cases h60 : e.level = 60
      · simp [hcount, hroom, h60]
      · have h61 : e.level = 61 := by omega
        simp [hcount, hroom, h61]
  · -- all levels from here on are over the limit
    have h61 := hoverflow hcount
    have hroom : ¬ level < 62 := by omega
    simp [hcount, hroom, h61]

theorem ofOpened_eq_under (hbase : base < limit) {opened : List BidiClass}
    (h : ∀ c ∈ opened, isInitiator c = true) :
    (ofOpened base opened).Counted ∧
      ((ofOpened base opened).level, (ofOpened base opened).override) = under base opened := by
  induction opened with
  | nil => exact ⟨⟨hbase, fun hoverflow => absurd rfl hoverflow⟩, rfl⟩
  | cons cls outer ih =>
    obtain ⟨hcls, houter⟩ := List.forall_mem_cons.mp h
    obtain ⟨hcounted, hunder⟩ := ih houter
    obtain ⟨hafter, hnext⟩ := after_of_isInitiator base (ofOpened base outer) hcls
    have hstep := hcounted.initiate hnext (overrideFor cls)
    rw [← hafter] at hstep
    refine ⟨hstep.1, hstep.2.trans ?_⟩
    rw [under, ← hunder]

/-- What is in effect behind characters is said by the initiators that are open there: each end
closes the innermost one, and each initiator counts if there is room for its level. -/
theorem foldl_after_eq_under (hbase : base < limit) (classes : List BidiClass) :
    ((classes.foldl (Embedding.after base) (start base)).level,
        (classes.foldl (Embedding.after base) (start base)).override) =
      under base (classes.foldl stillOpen []) := by
  have hnone : ∀ c ∈ ([] : List BidiClass), isInitiator c = true :=
    fun c hc => absurd hc List.not_mem_nil
  obtain ⟨hopened, hfold⟩ := foldl_after_ofOpened base hnone classes
  have hstart : ofOpened base [] = start base := rfl
  rw [hstart] at hfold
  rw [hfold]
  exact (ofOpened_eq_under hbase hopened).2

/-- Of two embeddings inside an override an end closes the inner one, and the override is in effect
only behind the second end. -/
example :
    let opened := ([.RLO, .LRE, .RLE, .PDF, .PDF] : List BidiClass).foldl stillOpen []
    under 0 opened = (1, some .R) := by
  decide

end Embedding

theorem baseLevel_le_one (raw : List BidiClass) : baseLevel raw ≤ 1 := by
  unfold baseLevel
  split <;> omega

theorem baseLevel_lt_limit (raw : List BidiClass) : baseLevel raw < limit := by
  have hone := baseLevel_le_one raw
  unfold limit
  omega

/-- Balanced controls are all removed. -/
theorem isRemoved_of_isBalancedFrom {n : Nat} {classes : List BidiClass}
    (hz : isBalancedFrom n classes = true) : ∀ cls ∈ classes, isRemoved cls = true := by
  induction classes generalizing n with
  | nil => exact fun _ h => absurd h List.not_mem_nil
  | cons cls rest ih =>
    rw [List.forall_mem_cons]
    cases cls with
    | BN | RLE | RLO | LRE | LRO => exact ⟨rfl, ih hz⟩
    | PDF =>
      cases n with
      | zero => cases hz
      | succ n => exact ⟨rfl, ih hz⟩
    | _ => cases hz

/-! ## Places of all characters -/

section Places

variable (base : Nat) (e : Embedding)

theorem foldl_after_map_withoutIsolates (raw : List BidiClass) :
    (raw.map withoutIsolates).foldl (Embedding.after base) e =
      raw.foldl (Embedding.after base) e := by
  induction raw generalizing e with
  | nil => rfl
  | cons cls rest ih =>
    rw [List.map_cons, List.foldl_cons, List.foldl_cons, e.after_withoutIsolates, ih]

theorem places_append (classes others : List BidiClass) :
    places base e (classes ++ others) =
      places base e classes ++ places base (classes.foldl (Embedding.after base) e) others := by
  induction classes generalizing e with
  | nil => rfl
  | cons cls rest ih => rw [List.cons_append, places, places, ih, List.cons_append, List.foldl_cons]

/-- Where all is removed there are no places. -/
theorem places_of_isRemoved {raw : List BidiClass} (h : ∀ cls ∈ raw, isRemoved cls = true) :
    places base e (raw.map withoutIsolates) = List.replicate raw.length none := by
  induction raw generalizing e with
  | nil => rfl
  | cons cls rest ih =>
    obtain ⟨hcls, hrest⟩ := List.forall_mem_cons.mp h
    have hplace : e.place base (withoutIsolates cls) = none := by
      rw [← Option.not_isSome_iff_eq_none, e.isSome_place, hcls]
      decide
    rw [List.map_cons, places, hplace, ih _ hrest, List.length_cons, List.replicate_succ]

end Places

/-- The places of a line in two parts: the first decides what is in effect for the second. -/
theorem placesOf_append (raw others : List BidiClass) :
    placesOf (raw ++ others) =
      places (baseLevel (raw ++ others)) (.start (baseLevel (raw ++ others)))
          (raw.map withoutIsolates) ++
        places (baseLevel (raw ++ others))
          (raw.foldl (Embedding.after (baseLevel (raw ++ others)))
            (.start (baseLevel (raw ++ others))))
          (others.map withoutIsolates) := by
  rw [placesOf, List.map_append, places_append, foldl_after_map_withoutIsolates]

end LineRuns.Bidi
