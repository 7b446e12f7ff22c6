import LineRuns.Proofs.Bidi.LevelDivision
import LineRuns.Proofs.Bidi.Sides

/-!
# Texts of one direction

Where nothing opens an embedding, ends have nothing to end and the base level stays in effect. So
what keeps a place is one stretch, at the base level and with its side before it and after it. If no
class in it is opposed to this side, the weak passes bring none in, and all that they leave is
neutral or of the class of the side (`IsPlain.eq_toClass`). Each neutral is then between two such
classes and joins them. All characters come to the base level, and a text at one level is one
logical run.
-/

namespace LineRuns.Bidi

open Unicode (BidiClass bidiClass)

variable {t : Text} {raw : List BidiClass} {cls : BidiClass} {side : Side}

/-! ## One stretch -/

/-- The classes that keep a place, with isolate controls as neutrals. -/
def retained (raw : List BidiClass) : List BidiClass :=
  (raw.filter fun cls => !isRemoved cls).map withoutIsolates

theorem Embedding.after_start (base : Nat) (h : isInitiator cls = false) :
    (start base).after base cls = start base := by
  cases cls with
  | RLE | RLO | LRE | LRO => cases h
  | _ => rfl

theorem Embedding.place_start (base : Nat) (cls : BidiClass) :
    (start base).place base (withoutIsolates cls) =
      if isRemoved cls then none else some ⟨withoutIsolates cls, base⟩ := by
  cases cls <;> rfl

/-- Without initiators all places are at the base level, and no class is overridden. -/
theorem filterMap_places_start (base : Nat) (h : ∀ cls ∈ raw, isInitiator cls = false) :
    (places base (.start base) (raw.map withoutIsolates)).filterMap id =
      (retained raw).map (⟨·, base⟩) := by
  induction raw with
  | nil => rfl
  | cons cls rest ih =>
    obtain ⟨hcls, hrest⟩ := List.forall_mem_cons.mp h
    rw [List.map_cons, places, Embedding.place_start, Embedding.after_withoutIsolates,
      Embedding.after_start base hcls]
    cases hremoved : isRemoved cls with
    | true => simpa [retained, hremoved] using ih hrest
    | false => simpa [retained, hremoved] using ih hrest

theorem levelBlocks_map (level : Nat) (cls : BidiClass) (rest : List BidiClass) :
    levelBlocks ((cls :: rest).map (⟨·, level⟩)) = [(level, cls :: rest)] := by
  induction rest generalizing cls with
  | nil => rfl
  | cons next rest ih =>
    rw [List.map_cons, levelBlocks, ih]
    simp

/-- Without initiators a line is one stretch at most, between two sides of its level. -/
theorem stretchesOf_eq (h : ∀ cls ∈ raw, isInitiator cls = false) :
    ∀ s ∈ stretchesOf raw, s = ⟨baseLevel raw, retained raw, Side.ofLevel (baseLevel raw),
      Side.ofLevel (baseLevel raw)⟩ := by
  intro s hs
  rw [stretchesOf, placesOf, filterMap_places_start _ h, stretches] at hs
  cases hretained : retained raw with
  | nil =>
    rw [hretained] at hs
    exact absurd hs List.not_mem_nil
  | cons cls rest =>
    rw [hretained, levelBlocks_map, withSides, Side.between, Nat.max_self] at hs
    exact List.mem_singleton.mp hs

/-! ## One class -/

/-- The letters of the other side, and the numbers that do not go to the level of the side. -/
def opposed : Side → List BidiClass
  | .L => [.R, .AL, .AN]
  | .R => [.L, .EN, .AN]

/-- A class that is not opposed to the side, and not missing. -/
def IsAligned (side : Side) (cls : BidiClass) : Prop :=
  cls ≠ .unassigned ∧ cls ∉ opposed side

/-- A class of a stretch that goes to one side: it keeps a place and is aligned with the side. -/
def GoesTo (side : Side) (cls : BidiClass) : Prop :=
  IsRetained cls ∧ IsAligned side cls

theorem IsAligned.goesTo (h : IsAligned side cls) (hremoved : isRemoved cls = false) :
    GoesTo side (withoutIsolates cls) := by
  cases side <;> cases cls <;>
    simp_all [GoesTo, IsRetained, IsAligned, opposed, withoutIsolates, isRemoved]

theorem goesTo_toClass (side : Side) : GoesTo side side.toClass := by
  cases side <;> simp [GoesTo, IsRetained, IsAligned, opposed, Side.toClass]

/-- The weak passes bring in no class that is opposed to the side. -/
theorem stable_goesTo (side : Side) : Stable (GoesTo side) := by
  cases side <;> constructor <;> simp [GoesTo, IsRetained, IsAligned, opposed]

/-- What the weak passes leave that is not neutral is of the class of the side: European digits are
left only where something right-to-left is. -/
theorem IsPlain.eq_toClass (h : IsPlain (GoesTo side) side cls)
    (hneutral : isNeutral cls = false) : cls = side.toClass := by
  obtain ⟨⟨hretained, hassigned, hopposed⟩, hrewritten, hdigit⟩ := h
  rcases hretained.settled hrewritten hneutral with himplied | hmissing
  · cases side with
    | L =>
      rcases himplied with rfl | rfl | rfl | rfl
      · rfl
      · exact absurd (by decide) hopposed
      · rcases hdigit rfl with hside | ⟨-, -, hR⟩
        · cases hside
        · exact absurd (by decide) hR
      · exact absurd (by decide) hopposed
    | R =>
      rcases himplied with rfl | rfl | rfl | rfl
      · exact absurd (by decide) hopposed
      · rfl
      · exact absurd (by decide) hopposed
      · exact absurd (by decide) hopposed
  · exact absurd hmissing hassigned

/-- A stretch between two equal sides, to which none of its classes is opposed, is left with the
class of the side alone. -/
theorem Stretch.eq_toClass_of_goesTo {s : Stretch} (hsor : s.sor = side) (heor : s.eor = side)
    (hlevel : Side.ofLevel s.level = side) (h : ∀ cls ∈ s.classes, GoesTo side cls) :
    ∀ cls ∈ s.weak.neutral.classes, cls = side.toClass := by
  have hside : ∀ cls : BidiClass, cls = side.toClass → asSide cls = side.toClass := by
    rintro cls rfl
    cases side <;> rfl
  refine (leaves_stretch (stable_goesTo side) (hsor ▸ goesTo_toClass side)
    (fun cls hcls _ => h cls hcls) ?_ hside (congrArg _ hlevel) (congrArg _ hsor)
    (congrArg _ heor)).all
  intro cls hplain hneutral
  rw [hsor] at hplain
  exact hplain.eq_toClass hneutral

/-! ## One level -/

theorem impliedLevel_toClass (level : Nat) :
    impliedLevel (Side.ofLevel level).toClass level = some level := by
  unfold Side.ofLevel
  split
  · rename_i heven
    exact congrArg some (if_pos heven)
  · rename_i hodd
    exact congrArg some (if_neg hodd)

/-- Without initiators, and without classes that are opposed to the side of its base level, a line
is settled as this side at this level. -/
theorem settled_eq (hinitiator : ∀ cls ∈ raw, isInitiator cls = false)
    (h : ∀ cls ∈ raw, IsAligned (Side.ofLevel (baseLevel raw)) cls) :
    ∀ c ∈ settled raw, c = ⟨(Side.ofLevel (baseLevel raw)).toClass, baseLevel raw⟩ := by
  intro c hc
  obtain ⟨s, hs, hc⟩ := List.mem_flatMap.mp hc
  obtain ⟨cls, hcls, rfl⟩ := List.mem_map.mp hc
  obtain rfl := stretchesOf_eq hinitiator s hs
  have hgoes : ∀ cls ∈ retained raw, GoesTo (Side.ofLevel (baseLevel raw)) cls := by
    intro cls hcls
    obtain ⟨cls, hmem, rfl⟩ := List.mem_map.mp hcls
    obtain ⟨hmem, hremoved⟩ := List.mem_filter.mp hmem
    exact (h cls hmem).goesTo (by simpa using hremoved)
  rw [Stretch.eq_toClass_of_goesTo rfl rfl rfl hgoes cls hcls]
  rfl

/-- Classes that have an implied level stop nothing. -/
theorem imply_eq_none {cells : List Cell} {level : Nat}
    (h : ∀ c ∈ cells, impliedLevel c.cls c.level = some level) : (imply cells).2 = none := by
  induction cells with
  | nil => rfl
  | cons c rest ih =>
    obtain ⟨hc, hrest⟩ := List.forall_mem_cons.mp h
    rw [imply, hc]
    exact ih hrest

/-- All characters of such a line come to its base level. -/
theorem levels_resolve_eq_replicate (hinitiator : ∀ cls ∈ raw, isInitiator cls = false)
    (h : ∀ cls ∈ raw, IsAligned (Side.ofLevel (baseLevel raw)) cls) :
    (resolve raw none).levels = .ok (List.replicate raw.length (baseLevel raw)) := by
  have hsettled := settled_eq hinitiator h
  have himplied : ∀ c ∈ settled raw, impliedLevel c.cls c.level = some (baseLevel raw) := by
    intro c hc
    rw [hsettled c hc]
    exact impliedLevel_toClass (baseLevel raw)
  have hlevels := levels_resolve raw
  rw [imply_eq_none himplied] at hlevels
  rw [hlevels, Except.ok.injEq, List.eq_replicate_iff]
  refine ⟨?_, forall_mem_levels hlevels rfl ?_⟩
  · rw [length_inherit, placesOf, length_places, List.length_map]
  · intro c hc level hlevel
    exact Option.some.inj (hlevel.symm.trans (himplied c hc))

/-! ## One run -/

/-- A text at one level is one logical run. -/
theorem logicalRuns_replicate (hne : t ≠ []) (level : Nat) :
    logicalRuns t (List.replicate t.length level) = [⟨0, t.units.size, level⟩] := by
  have hpos : (0 : Int) < t.width := Int.ofNat_lt.mpr (Text.width_pos_iff.mpr hne)
  rw [Text.size_units]
  have hone : IsDivision t (List.replicate t.length level) [⟨0, t.width, level⟩] := by
    refine .of_follow ⟨rfl, hpos, rfl⟩ (List.IsChain.singleton _) ?_
    rintro before c rest rfl
    refine ⟨_, List.mem_singleton_self _, Nat.zero_le _, ?_, ?_⟩
    · show before.width + c.width ≤ Text.width (before ++ c :: rest)
      rw [Text.width_append, Text.width_cons]
      omega
    · rw [List.getElem?_replicate, if_pos (by simp)]
  exact hone.unique (isDivision_logicalRuns List.length_replicate)

/-! ## The base level -/

/-- The base level is 0 without right-to-left letters. -/
theorem baseLevel_eq_zero (h : ∀ cls ∈ raw, cls ∉ [.R, .AL]) : baseLevel raw = 0 := by
  unfold baseLevel
  split
  · rename_i hfound
    exact absurd (by decide) (h .R (List.mem_of_find?_eq_some hfound))
  · rename_i hfound
    exact absurd (by decide) (h .AL (List.mem_of_find?_eq_some hfound))
  · rfl

/-- The base level is 1 with right-to-left letters and no left-to-right ones. -/
theorem baseLevel_eq_one (hright : ∃ cls ∈ raw, cls ∈ [.R, .AL]) (hleft : .L ∉ raw) :
    baseLevel raw = 1 := by
  induction raw with
  | nil =>
    obtain ⟨letter, hmem, -⟩ := hright
    exact absurd hmem List.not_mem_nil
  | cons cls rest ih =>
    obtain ⟨hcls, hrest⟩ := List.ne_and_not_mem_of_not_mem_cons hleft
    cases cls with
    | L => exact absurd rfl hcls
    | R | AL => rfl
    | _ =>
      -- no letter, so the letter that is there is behind it
      refine ih ?_ hrest
      obtain ⟨letter, hmem, hletter⟩ := hright
      rcases List.mem_cons.mp hmem with rfl | hmem
      · exact absurd hletter (by decide)
      · exact ⟨letter, hmem, hletter⟩

/-! ## Analyses -/

/-- Without initiators and missing classes, a text to whose base level no class is opposed is one
logical run at this level. -/
theorem Context.analyse_of_isAligned (ctx : Context) (hne : t ≠ [])
    (hinitiator : ∀ c ∈ t, isInitiator (bidiClass c) = false)
    (h : ∀ c ∈ t, IsAligned (Side.ofLevel (baseLevel (t.map bidiClass))) (bidiClass c)) :
    (ctx.analyse t none).2 = .ok [⟨0, t.units.size, baseLevel (t.map bidiClass)⟩] := by
  have hlevels := levels_resolve_eq_replicate (List.forall_mem_map.mpr hinitiator)
    (List.forall_mem_map.mpr h)
  rw [List.length_map] at hlevels
  rw [ctx.analyse_eq_match, resolveText, hlevels]
  exact congrArg Except.ok (logicalRuns_replicate hne _)

/-- A text of one direction is one logical run: at level 0 if it has no right-to-left letters and no
Arabic digits, whatever else it has, and at level 1 if it has right-to-left letters, and no
left-to-right ones and no digits. Characters without a class and initiators of embeddings and
overrides are left out; ends of embeddings and isolate controls are not. -/
theorem analyse_one_direction (ctx : Context) (hne : t ≠ [])
    (hplain : ∀ c ∈ t, bidiClass c ≠ .unassigned ∧ isInitiator (bidiClass c) = false) :
    ((∀ c ∈ t, bidiClass c ∉ [.R, .AL, .AN]) →
      (ctx.analyse t none).2 = .ok [⟨0, t.units.size, 0⟩]) ∧
    ((∃ c ∈ t, bidiClass c ∈ [.R, .AL]) → (∀ c ∈ t, bidiClass c ∉ [.L, .EN, .AN]) →
      (ctx.analyse t none).2 = .ok [⟨0, t.units.size, 1⟩]) := by
  have hassigned := fun c hc => (hplain c hc).1
  have hinitiator := fun c hc => (hplain c hc).2
  constructor
  · intro hleft
    have hbase : baseLevel (t.map bidiClass) = 0 := by
      refine baseLevel_eq_zero (List.forall_mem_map.mpr fun c hc hletter => hleft c hc ?_)
      exact List.mem_append_left [.AN] hletter
    have hrun := ctx.analyse_of_isAligned hne hinitiator
    rw [hbase] at hrun
    exact hrun fun c hc => ⟨hassigned c hc, hleft c hc⟩
  · rintro ⟨letter, hmem, hletter⟩ hright
    have hbase : baseLevel (t.map bidiClass) = 1 := by
      refine baseLevel_eq_one ⟨_, List.mem_map_of_mem hmem, hletter⟩ ?_
      rw [List.mem_map]
      rintro ⟨c, hc, hclass⟩
      exact hright c hc (hclass ▸ List.mem_cons_self)
    have hrun := ctx.analyse_of_isAligned hne hinitiator
    rw [hbase] at hrun
    exact hrun fun c hc => ⟨hassigned c hc, hright c hc⟩

/-- A mark, numbers with a separator and a terminator, a stray end, a removed character, an isolate
control, the end of a paragraph, a blank and an emoji. -/
def mixedNumbers : Text :=
  [0x301, 0x31, 0x2B, 0x32, 0x25, 0x202C, 0xAD, 0x2067, 0x2029, 0x20, 0x1F600]

/-- Right-to-left letters behind a mark, a separator and a terminator, with an isolate control, a
mark and a stray end among them, and one of two units at the end. -/
def mixedLetters : Text :=
  [0x301, 0x2B, 0x25, 0x5D0, 0x2068, 0x627, 0x301, 0x202C, 0x10800]

/-- Such texts are one run each. -/
theorem analyse_one_direction_mixed :
    (Context.fresh.analyse mixedNumbers none).2 = .ok [⟨0, 12, 0⟩] ∧
      (Context.fresh.analyse mixedLetters none).2 = .ok [⟨0, 10, 1⟩] := by
  have hnumbers : mixedNumbers.map bidiClass =
      [.NSM, .EN, .ES, .EN, .ET, .PDF, .BN, .RLI, .B, .WS, .ON] := by decide +kernel
  have hletters : mixedLetters.map bidiClass =
      [.NSM, .ES, .ET, .R, .FSI, .AL, .NSM, .PDF, .R] := by decide +kernel
  constructor
  · have hplain : ∀ cls ∈ mixedNumbers.map bidiClass,
        cls ≠ .unassigned ∧ isInitiator cls = false := by
      rw [hnumbers]
      decide
    have hleft : ∀ cls ∈ mixedNumbers.map bidiClass, cls ∉ [.R, .AL, .AN] := by
      rw [hnumbers]
      decide
    exact (analyse_one_direction .fresh (by decide) (List.forall_mem_map.mp hplain)).1
      fun c hc => hleft _ (List.mem_map_of_mem hc)
  · have hplain : ∀ cls ∈ mixedLetters.map bidiClass,
        cls ≠ .unassigned ∧ isInitiator cls = false := by
      rw [hletters]
      decide
    have hright : ∀ cls ∈ mixedLetters.map bidiClass, cls ∉ [.L, .EN, .AN] := by
      rw [hletters]
      decide
    exact (analyse_one_direction .fresh (by decide) (List.forall_mem_map.mp hplain)).2
      ⟨0x5D0, by decide, by decide +kernel⟩ fun c hc => hright _ (List.mem_map_of_mem hc)

end LineRuns.Bidi
