import LineRuns.Proofs.Bidi.Explicit
import LineRuns.Proofs.Bidi.LogicalRun

/-!
# Controls that change nothing

Controls and boundary neutrals that are balanced by themselves can be put in anywhere. They keep no
place and leave in effect what was in effect, so that the characters around them are settled as
they were, at any depth of embeddings; they themselves take the level of the last character before
them that keeps its place. The logical runs only make room for them (`logicalRuns_insert`).
-/

namespace LineRuns.Bidi

open Unicode (BidiClass)

/-! ## Inherited levels -/

theorem inherit_append (before : Nat) (placed others : List (Option Cell)) (levels : List Nat) :
    inherit before (placed ++ others) levels =
      inherit before placed levels ++
        inherit ((inherit before placed levels).getLast?.getD before) others
          (levels.drop (placed.filterMap id).length) := by
  induction placed generalizing before levels with
  | nil => rfl
  | cons p rest ih =>
    cases p with
    | none =>
      rw [List.cons_append, inherit, inherit, ih, List.getLast?_cons]
      rfl
    | some c =>
      cases levels with
      | nil =>
        rw [List.cons_append, inherit, inherit, ih, List.getLast?_cons, List.drop_nil,
          List.drop_nil]
        rfl
      | cons level levels =>
        rw [List.cons_append, inherit, inherit, ih, List.getLast?_cons]
        rfl

theorem inherit_replicate_none (before n : Nat) (placed : List (Option Cell)) (levels : List Nat) :
    inherit before (List.replicate n none ++ placed) levels =
      List.replicate n before ++ inherit before placed levels := by
  induction n with
  | zero => rfl
  | succ n ih =>
    rw [List.replicate_succ, List.cons_append, inherit, ih]
    rfl

/-- The level of the last of the given classes that is not removed, or the base level if all are. -/
def levelBehind (base : Nat) (raw : List BidiClass) (levels : List Nat) : Nat :=
  (((raw.zip levels).filter fun p => !isRemoved p.1).getLast?.map Prod.snd).getD base

theorem levelBehind_cons (base : Nat) (cls : BidiClass) (raw : List BidiClass) (level : Nat)
    (levels : List Nat) :
    levelBehind base (cls :: raw) (level :: levels) =
      levelBehind (if isRemoved cls then base else level) raw levels := by
  unfold levelBehind
  rw [List.zip_cons_cons, List.filter_cons]
  cases isRemoved cls with
  | true => rfl
  | false =>
    simp only [Bool.not_false, if_true, List.getLast?_cons, Option.map_some, Option.getD_some]
    cases ((raw.zip levels).filter fun p => !isRemoved p.1).getLast? <;> rfl

/-- The last of the inherited levels is that of the last character that is not removed. -/
theorem getLast?_inherit_places (base : Nat) (e : Embedding) (raw : List BidiClass) (before : Nat)
    (levels : List Nat) :
    (inherit before (places base e (raw.map withoutIsolates)) levels).getLast?.getD before =
      levelBehind before raw (inherit before (places base e (raw.map withoutIsolates)) levels) := by
  induction raw generalizing e before levels with
  | nil => rfl
  | cons cls rest ih =>
    have hplace := e.isSome_place base cls
    rw [List.map_cons, places]
    cases hp : e.place base (withoutIsolates cls) with
    | none =>
      rw [hp] at hplace
      have hremoved : isRemoved cls = true := by simpa using hplace
      rw [inherit, levelBehind_cons, if_pos hremoved, ← ih, List.getLast?_cons]
      rfl
    | some c =>
      rw [hp] at hplace
      have hkept : ¬ isRemoved cls = true := by simpa using hplace
      cases levels with
      | nil =>
        rw [inherit, levelBehind_cons, if_neg hkept, ← ih, List.getLast?_cons]
        rfl
      | cons level levels =>
        rw [inherit, levelBehind_cons, if_neg hkept, ← ih, List.getLast?_cons]
        rfl

/-! ## Removed characters -/

/-- What is removed does not decide the base level. -/
theorem baseLevel_insert {u z v : List BidiClass} (hz : ∀ cls ∈ z, isRemoved cls = true) :
    baseLevel (u ++ z ++ v) = baseLevel (u ++ v) := by
  have hnone : (z.find? fun cls => cls == .L || cls == .R || cls == .AL) = none := by
    rw [List.find?_eq_none]
    intro cls hcls
    have hremoved := hz cls hcls
    cases cls with
    | RLE | RLO | LRE | LRO | PDF | BN => decide
    | _ => cases hremoved
  unfold baseLevel
  rw [List.find?_append, List.find?_append, List.find?_append, hnone, Option.or_none]

/-- Settled characters depend on the base level and the retained characters alone. -/
theorem settled_congr {raw raw' : List BidiClass} (hbase : baseLevel raw = baseLevel raw')
    (hplaces : (placesOf raw).filterMap id = (placesOf raw').filterMap id) :
    settled raw = settled raw' := by
  rw [settled, settled, stretchesOf, stretchesOf, hbase, hplaces]

theorem length_placesOf (raw : List BidiClass) : (placesOf raw).length = raw.length := by
  rw [placesOf, length_places, List.length_map]

/-- Balanced controls between two parts of a line: they keep no place, and the second part keeps
the places that it has without them. -/
theorem placesOf_insert {u z v : List BidiClass} (hz : isBalanced z = true) :
    ∃ first second, placesOf (u ++ v) = first ++ second ∧
      placesOf (u ++ z ++ v) = first ++ (List.replicate z.length none ++ second) ∧
      first =
        places (baseLevel (u ++ v)) (.start (baseLevel (u ++ v))) (u.map withoutIsolates) := by
  have hremoved := isRemoved_of_isBalancedFrom hz
  have hbase := baseLevel_insert (u := u) (v := v) hremoved
  have hvalid := (Embedding.valid_start (baseLevel (u ++ v))).foldl_after (baseLevel (u ++ v)) u
  refine ⟨_, _, placesOf_append u v, ?_, rfl⟩
  rw [List.append_assoc, placesOf_append, ← List.append_assoc, hbase, List.map_append,
    places_append, places_of_isRemoved _ _ hremoved, foldl_after_map_withoutIsolates,
    hvalid.foldl_after_balanced hz]

/-- Balanced controls between two parts of a line leave all levels as they are, and take the level
of the last character of the first part that is not removed. -/
theorem levels_insert {u z v : List BidiClass} (hz : isBalanced z = true) (fault : Option Text) :
    match (resolve (u ++ v) fault).levels with
    | .error cause => (resolve (u ++ z ++ v) fault).levels = .error cause
    | .ok levels => ∃ lu lv, levels = lu ++ lv ∧ lu.length = u.length ∧ lv.length = v.length ∧
        lu.getLast?.getD (baseLevel (u ++ v)) = levelBehind (baseLevel (u ++ v)) u lu ∧
        (resolve (u ++ z ++ v) fault).levels =
          .ok (lu ++ List.replicate z.length (levelBehind (baseLevel (u ++ v)) u lu) ++ lv) := by
  cases fault with
  | some cause => rfl
  | none =>
    have hbase := baseLevel_insert (u := u) (v := v) (isRemoved_of_isBalancedFrom hz)
    obtain ⟨first, second, hwithout, hwith, hfirst⟩ := placesOf_insert (u := u) (v := v) hz
    have hsettled : settled (u ++ z ++ v) = settled (u ++ v) := by
      refine settled_congr hbase ?_
      rw [hwithout, hwith]
      simp
    rw [levels_resolve, levels_resolve, hsettled]
    cases (imply (settled (u ++ v))).2 with
    | some cls => rfl
    | none =>
      have hlast := getLast?_inherit_places (baseLevel (u ++ v)) (.start (baseLevel (u ++ v))) u
        (baseLevel (u ++ v)) ((imply (settled (u ++ v))).1.map Cell.level)
      have hlength := congrArg List.length hwithout
      rw [← hfirst] at hlast
      rw [hwithout, hwith, hbase, inherit_append, inherit_append, inherit_replicate_none]
      rw [length_placesOf, List.length_append, List.length_append] at hlength
      refine ⟨_, _, rfl, ?_, ?_, hlast, ?_⟩
      · rw [length_inherit, hfirst, length_places, List.length_map]
      · rw [length_inherit]
        rw [hfirst, length_places, List.length_map] at hlength
        omega
      · rw [hlast, List.append_assoc]

/-! ## Logical runs with room in them -/

namespace LogicalRun

/-- A run whose ends are moved to other positions. -/
def move (f : Nat → Nat) (run : LogicalRun) : LogicalRun :=
  ⟨f run.start, f run.stop, run.level⟩

/-- Room at a position: what starts or stops there or later moves on, what is before stays. -/
def makeRoom (position room : Nat) : LogicalRun → LogicalRun :=
  move fun p => if p < position then p else p + room

variable {chars others : List (Nat × Nat)}

/-- Of two characters at one level the first stop does not count. -/
theorem grow_grow (start stop middle stop' level : Nat) (runs : List LogicalRun) :
    grow start stop level (grow middle stop' level runs) = grow start stop' level runs := by
  cases runs with
  | nil => simp [grow]
  | cons run more =>
    by_cases h : run.level = level <;> simp [grow, h]

theorem map_move_grow (f : Nat → Nat) (start stop level : Nat) (runs : List LogicalRun) :
    (grow start stop level runs).map (move f) =
      grow (f start) (f stop) level (runs.map (move f)) := by
  cases runs with
  | nil => rfl
  | cons run more =>
    by_cases h : run.level = level <;> simp [grow, move, h]

theorem ofLevels_append_congr (h : ∀ start, ofLevels start chars = ofLevels start others)
    (before : List (Nat × Nat)) (start : Nat) :
    ofLevels start (before ++ chars) = ofLevels start (before ++ others) := by
  induction before generalizing start with
  | nil => exact h start
  | cons p before ih =>
    obtain ⟨width, level⟩ := p
    rw [List.cons_append, List.cons_append, ofLevels_cons, ofLevels_cons, ih]

/-- A text at the level of the character before it is to the runs like a wider character. -/
theorem ofLevels_merge (z : Text) (width level : Nat) (chars : List (Nat × Nat)) (start : Nat) :
    ofLevels start ((width, level) :: ((z.map fun c => (c.width, level)) ++ chars)) =
      ofLevels start ((width + z.width, level) :: chars) := by
  induction z generalizing width with
  | nil => rfl
  | cons c z ih =>
    have htwo := ih (width + c.width)
    rw [ofLevels_cons] at htwo
    rw [List.map_cons, List.cons_append, ofLevels_cons, ofLevels_cons, grow_grow, Nat.add_assoc,
      htwo, Text.width_cons, Nat.add_assoc]

/-- Runs that start at a later position are the same runs, moved on. -/
theorem ofLevels_add (start room : Nat) (chars : List (Nat × Nat)) :
    ofLevels (start + room) chars = (ofLevels start chars).map (move (· + room)) := by
  induction chars generalizing start with
  | nil => rfl
  | cons p rest ih =>
    obtain ⟨width, level⟩ := p
    rw [ofLevels_cons, ofLevels_cons, map_move_grow, Nat.add_right_comm, ih]

/-- Runs behind a position all make room there. -/
theorem map_makeRoom_ofLevels (hpos : ∀ p ∈ chars, 0 < p.1) (start room : Nat) :
    (ofLevels start chars).map (makeRoom start room) = ofLevels (start + room) chars := by
  rw [ofLevels_add]
  refine List.map_congr_left fun run hrun => ?_
  obtain ⟨hstart, hlt, -⟩ := (follow_ofLevels hpos start).bounds hrun
  have hge : ¬ run.start < start := by omega
  have hstop : ¬ run.stop < start := by omega
  simp only [makeRoom, move, if_neg hge, if_neg hstop]

/-- A character that gets wider makes room for what it gained, at its end. -/
theorem ofLevels_widen {width : Nat} (hwidth : 0 < width) (hpos : ∀ p ∈ chars, 0 < p.1)
    (room level : Nat) (before : List (Nat × Nat)) (start : Nat) :
    ofLevels start (before ++ (width + room, level) :: chars) =
      (ofLevels start (before ++ (width, level) :: chars)).map
        (makeRoom (start + before.foldr (fun p n => p.1 + n) 0 + width) room) := by
  induction before generalizing start with
  | nil =>
    -- the stop of the character is the position, and all runs after it make room
    have hmoved := map_makeRoom_ofLevels hpos (start + width) room
    have hstart : start < start + width := by omega
    have hstop : ¬ start + width < start + width := by omega
    rw [List.nil_append, List.nil_append, List.foldr_nil, Nat.add_zero, ofLevels_cons,
      ofLevels_cons, makeRoom, map_move_grow, if_pos hstart, if_neg hstop, ← makeRoom, hmoved,
      Nat.add_assoc]
  | cons p before ih =>
    obtain ⟨first, level'⟩ := p
    have hposition : start + first + before.foldr (fun p n => p.1 + n) 0 + width =
        start + (first + before.foldr (fun p n => p.1 + n) 0) + width := by omega
    have hstart : start < start + (first + before.foldr (fun p n => p.1 + n) 0) + width := by omega
    have hstop : start + first <
        start + (first + before.foldr (fun p n => p.1 + n) 0) + width := by omega
    rw [List.cons_append, List.cons_append, List.foldr_cons, ofLevels_cons, ofLevels_cons, ih,
      hposition, makeRoom, map_move_grow, if_pos hstart, if_pos hstop]

end LogicalRun

/-- The widths and levels of a text in two parts. -/
private theorem widths_append {t t' : Text} {levels levels' : List Nat}
    (h : levels.length = t.length) :
    ((t ++ t').zip (levels ++ levels')).map (fun p => (p.1.width, p.2)) =
      ((t.zip levels).map fun p => (p.1.width, p.2)) ++
        (t'.zip levels').map fun p => (p.1.width, p.2) := by
  rw [List.zip_append h.symm, List.map_append]

private theorem widths_replicate (t : Text) (level : Nat) :
    ((t.zip (List.replicate t.length level)).map fun p => (p.1.width, p.2)) =
      t.map fun c => (c.width, level) := by
  induction t with
  | nil => rfl
  | cons c t ih =>
    rw [List.length_cons, List.replicate_succ, List.zip_cons_cons, List.map_cons, ih, List.map_cons]

/-- Characters at the level of the last one before them make room in the logical runs there. -/
theorem logicalRuns_insert {u : Text} {lu : List Nat} (hu : u ≠ [])
    (hlength : lu.length = u.length) (base : Nat) (z v : Text) (lv : List Nat) :
    logicalRuns (u ++ z ++ v) (lu ++ List.replicate z.length (lu.getLast?.getD base) ++ lv) =
      (logicalRuns (u ++ v) (lu ++ lv)).map (LogicalRun.makeRoom u.width z.width) := by
  -- the last character of the first part is what gets wider
  obtain ⟨u, c, rfl⟩ := (List.eq_nil_or_concat' u).resolve_left hu
  obtain rfl | ⟨lu, level, rfl⟩ := List.eq_nil_or_concat' lu
  · simp at hlength
  have hbefore : lu.length = u.length := by simpa using hlength
  have hlast : (lu ++ [level]).getLast?.getD base = level := by simp
  have hwidth : Text.width (u ++ [c]) = 0 +
      ((u.zip lu).map fun p => (p.1.width, p.2)).foldr (fun p n => p.1 + n) 0 + c.width := by
    rw [sum_widths hbefore, Text.width_append, Text.width_cons, Text.width_nil]
    omega
  have hwithout : ((u ++ [c] ++ v).zip (lu ++ [level] ++ lv)).map (fun p => (p.1.width, p.2)) =
      ((u.zip lu).map fun p => (p.1.width, p.2)) ++
        (c.width, level) :: (v.zip lv).map fun p => (p.1.width, p.2) := by
    rw [List.append_assoc, List.append_assoc, widths_append hbefore]
    rfl
  have hwith : ((u ++ [c] ++ z ++ v).zip
      (lu ++ [level] ++ List.replicate z.length level ++ lv)).map (fun p => (p.1.width, p.2)) =
      ((u.zip lu).map fun p => (p.1.width, p.2)) ++
        (c.width, level) :: ((z.map fun c => (c.width, level)) ++
          (v.zip lv).map fun p => (p.1.width, p.2)) := by
    rw [List.append_assoc, List.append_assoc, List.append_assoc, List.append_assoc,
      widths_append hbefore, ← widths_replicate z level, ← widths_append List.length_replicate]
    rfl
  rw [hlast, logicalRuns, logicalRuns, hwith, hwithout, hwidth,
    ← LogicalRun.ofLevels_widen c.width_pos (widths_pos v lv)]
  exact LogicalRun.ofLevels_append_congr (LogicalRun.ofLevels_merge z c.width level _) _ 0

/-! ## Texts -/

/-- Controls and boundary neutrals that are balanced by themselves can be put in anywhere in a text.
The base level stays, and levels are resolved if and only if they were without them. Every other
character keeps its level, and they take that of the last character before them that is not
removed, or the base level. Behind a character, the logical runs make room for them and are
otherwise the same: no run is added, and none of its ends is at another character. -/
theorem resolveText_insert (u v : Text) {z : Text} (fault : Option Text)
    (hz : isBalanced (z.map Unicode.bidiClass) = true) :
    (resolveText (u ++ z ++ v) fault).base = (resolveText (u ++ v) fault).base ∧
    (match (resolveText (u ++ v) fault).levels with
    | .error cause => (resolveText (u ++ z ++ v) fault).levels = .error cause
    | .ok levels => ∃ lu lv, levels = lu ++ lv ∧ lu.length = u.length ∧ lv.length = v.length ∧
        (resolveText (u ++ z ++ v) fault).levels =
          .ok (lu ++ List.replicate z.length
            (levelBehind (resolveText (u ++ v) fault).base (u.map Unicode.bidiClass) lu) ++ lv)) ∧
    (u ≠ [] → ∀ ctx : Context, (ctx.analyse (u ++ z ++ v) fault).2 =
      (ctx.analyse (u ++ v) fault).2.map (List.map (LogicalRun.makeRoom u.width z.width))) := by
  have hlevels := levels_insert (u := u.map Unicode.bidiClass) (v := v.map Unicode.bidiClass) hz
    fault
  have hbase := baseLevel_insert (u := u.map Unicode.bidiClass) (v := v.map Unicode.bidiClass)
    (isRemoved_of_isBalancedFrom hz)
  simp only [Context.analyse_eq_match, resolveText, base_resolve, List.map_append]
  cases hresolved : (resolve (u.map Unicode.bidiClass ++ v.map Unicode.bidiClass) fault).levels with
  | error cause =>
    rw [hresolved] at hlevels
    refine ⟨hbase, hlevels, fun _ _ => ?_⟩
    rw [hlevels]
    rfl
  | ok levels =>
    rw [hresolved] at hlevels
    obtain ⟨lu, lv, rfl, hlu, hlv, hlast, hlevels⟩ := hlevels
    rw [List.length_map] at hlu hlv hlevels
    refine ⟨hbase, ⟨lu, lv, rfl, hlu, hlv, hlevels⟩, fun hu _ => ?_⟩
    rw [hlevels, ← hlast]
    exact congrArg Except.ok (logicalRuns_insert hu hlu _ z v lv)

/-- A letter and more embeddings than there is room for. -/
def deep : Text :=
  0x61 :: List.replicate 31 0x202A

/-- An override inside an embedding, put in behind the embedding that was skipped. -/
theorem resolveText_insert_deep :
    isBalanced (([0x202B, 0x202D, 0xAD, 0x202C, 0x202C] : Text).map Unicode.bidiClass) = true ∧
    (Context.fresh.analyse (deep ++ [0x202B, 0x202D, 0xAD, 0x202C, 0x202C] ++ [0x5D0]) none).2 =
      .ok [⟨0, 37, 0⟩, ⟨37, 38, 61⟩] := by
  have hz : isBalanced (([0x202B, 0x202D, 0xAD, 0x202C, 0x202C] : Text).map Unicode.bidiClass) =
      true := by decide +kernel
  have hwithout : (Context.fresh.analyse (deep ++ [0x5D0]) none).2 =
      .ok [⟨0, 32, 0⟩, ⟨32, 33, 61⟩] := by decide +kernel
  obtain ⟨-, -, hruns⟩ := resolveText_insert deep [0x5D0] none hz
  rw [hruns (by decide) .fresh, hwithout]
  exact ⟨hz, by decide⟩

end LineRuns.Bidi
