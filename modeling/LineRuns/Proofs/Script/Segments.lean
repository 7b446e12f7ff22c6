import LineRuns.Proofs.Script.Homogeneous

/-!
# Dividing a text by script

A text is divided from the front: each piece takes code points as long as it shares a script with
them. `Longest` says what such pieces are, and three facts follow from it alone: every piece is
homogeneous, no two neighbours can be merged, and no division into homogeneous pieces has fewer of
them (`Longest.length_le`). `segments` computes the pieces, and its first piece is the stretch that
an interval spans.
-/

namespace LineRuns.Script

variable {lookup : Lookup}

/-! ## Longest pieces -/

/-- Pieces each of which is homogeneous, but no longer so with the next code point. -/
inductive Longest (lookup : Lookup) : List Text → Prop
  | nil : Longest lookup []
  | cons {p : Text} {rest : List Text} :
      Homogeneous lookup p →
      (∀ c ∈ rest.flatten.head?, ¬ Homogeneous lookup (p ++ [c])) →
      Longest lookup rest → Longest lookup (p :: rest)

namespace Longest

variable {p q v x : Text} {rest pieces : List Text}

theorem homogeneous (h : Longest lookup pieces) : ∀ p ∈ pieces, Homogeneous lookup p := by
  induction h with
  | nil => exact fun p hp => absurd hp List.not_mem_nil
  | cons hp _ _ ih => exact List.forall_mem_cons.mpr ⟨hp, ih⟩

/-- A piece with anything of what comes after it is not homogeneous. -/
theorem not_homogeneous_append (h : Longest lookup (p :: rest)) (hv : v ≠ [])
    (hrest : rest.flatten = v ++ x) : ¬ Homogeneous lookup (p ++ v) := by
  cases h with
  | cons hp hstop _ =>
    cases v with
    | nil => exact absurd rfl hv
    | cons c v =>
      -- a beginning of it would be homogeneous, and the piece would have gone on
      intro hpv
      have hhead : c ∈ rest.flatten.head? := by rw [hrest]; rfl
      refine hstop c hhead (Homogeneous.of_append (q := v) ?_ (by simp))
      simpa using hpv

/-- Two neighbours cannot be merged. -/
theorem isChain (h : Longest lookup pieces) :
    pieces.IsChain fun p q => ¬ Homogeneous lookup (p ++ q) := by
  induction h with
  | nil => exact List.IsChain.nil
  | @cons p rest hp hstop hrest ih =>
    cases rest with
    | nil => exact List.IsChain.singleton p
    | cons q more =>
      have hq : q ≠ [] := (hrest.homogeneous q List.mem_cons_self).ne_nil
      refine List.IsChain.cons_cons ?_ ih
      exact not_homogeneous_append (.cons hp hstop hrest) hq List.flatten_cons

/-- A homogeneous beginning of the text goes no further than the first piece. -/
theorem exists_eq_append (h : Longest lookup (p :: rest)) (hv : Homogeneous lookup v)
    (heq : v ++ x = p ++ rest.flatten) : ∃ u, p = v ++ u ∧ x = u ++ rest.flatten := by
  rcases List.append_eq_append_iff.mp heq with ⟨u, hp, hx⟩ | ⟨w, hvw, hrest⟩
  · exact ⟨u, hp, hx⟩
  · cases w with
    | nil =>
      refine ⟨[], ?_, ?_⟩
      · simpa using hvw.symm
      · simpa using hrest.symm
    | cons c w =>
      rw [hvw] at hv
      exact absurd hv (h.not_homogeneous_append (List.cons_ne_nil c w) hrest)

/-- What is cut off the front of a homogeneous stretch at the start of a piece leaves a homogeneous
stretch: had the piece started with an inherited code point, the one before it would have no
script. -/
theorem homogeneous_of_append {u : Text} (h : Longest lookup (p :: rest)) (hu : u <:+ p)
    (hv : v ≠ []) (hrest : rest.flatten = v ++ x) (huv : Homogeneous lookup (u ++ v)) :
    Homogeneous lookup v := by
  rcases List.eq_nil_or_concat' u with rfl | ⟨u', d, rfl⟩
  · exact huv
  cases v with
  | nil => exact absurd rfl hv
  | cons c v =>
    cases hc : isInherited (extensions lookup c) with
    | false => exact huv.of_append_right (by simp) hc
    | true =>
      -- the piece before has no script left, so it is a code point without any
      obtain ⟨w, rfl⟩ := hu
      have hstop := h.not_homogeneous_append (v := [c]) (x := v ++ x) (by simp) hrest
      rw [homogeneous_append_singleton_iff (by simp), narrow_of_isInherited hc, not_not] at hstop
      have hhom := h.homogeneous _ List.mem_cons_self
      obtain ⟨e, hsingle, he⟩ := hhom.eq_singleton_of_common hstop
      rw [← List.append_assoc] at hsingle
      have hlast : w ++ u' ++ [d] = [] ++ [e] := hsingle
      obtain ⟨hnil, hde⟩ := List.append_inj' hlast rfl
      obtain ⟨rfl, rfl⟩ := List.append_eq_nil_iff.mp hnil
      obtain rfl : d = e := List.head_eq_of_cons_eq hde
      exact absurd (huv.eq_singleton (p := []) he).2 (List.cons_ne_nil c v)

/-- The pieces stay ahead: a division that starts inside the first piece needs one piece for each
of the others. -/
theorem length_le_of_suffix {u : Text} {other : List Text} (h : Longest lookup (p :: rest))
    (hu : u <:+ p) (heq : other.flatten = u ++ rest.flatten)
    (hother : ∀ v ∈ other, Homogeneous lookup v) : rest.length ≤ other.length := by
  induction other generalizing p rest u with
  | nil =>
    cases rest with
    | nil => exact Nat.le_refl _
    | cons q more =>
      cases h with
      | cons _ _ hrest =>
        have hq := (hrest.homogeneous q List.mem_cons_self).ne_nil
        have hnil := (List.nil_eq_append_iff.mp heq).2
        rw [List.flatten_cons, List.append_eq_nil_iff] at hnil
        exact absurd hnil.1 hq
  | cons o others ih =>
    obtain ⟨ho, hothers⟩ := List.forall_mem_cons.mp hother
    rw [List.flatten_cons] at heq
    rcases List.append_eq_append_iff.mp heq with ⟨u', hu', hflat⟩ | ⟨v, hov, hflat⟩
    · -- it stops inside the first piece, too
      have hsuffix : u' <:+ p := (hu' ▸ List.suffix_append o u').trans hu
      exact Nat.le_succ_of_le (ih h hsuffix hflat hothers)
    · by_cases hv : v = []
      · -- it stops where the first piece does
        subst hv
        have hsuffix : [] <:+ p := List.nil_suffix
        exact Nat.le_succ_of_le (ih h hsuffix hflat.symm hothers)
      · cases rest with
        | nil => exact absurd (List.nil_eq_append_iff.mp hflat).1 hv
        | cons q more =>
          have hvhom := h.homogeneous_of_append hu hv hflat (hov ▸ ho)
          cases h with
          | cons _ _ hrest =>
            -- it reaches into the next piece, and no further
            obtain ⟨u', hq, hflat'⟩ := hrest.exists_eq_append hvhom hflat.symm
            exact Nat.succ_le_succ (ih hrest (hq ▸ List.suffix_append v u') hflat' hothers)

/-- No division into homogeneous pieces has fewer of them. -/
theorem length_le {other : List Text} (h : Longest lookup pieces)
    (heq : other.flatten = pieces.flatten) (hother : ∀ v ∈ other, Homogeneous lookup v) :
    pieces.length ≤ other.length := by
  cases pieces with
  | nil => exact Nat.zero_le _
  | cons p rest =>
    cases other with
    | nil =>
      have hp := (h.homogeneous p List.mem_cons_self).ne_nil
      rw [List.flatten_cons] at heq
      exact absurd (List.nil_eq_append_iff.mp heq).1 hp
    | cons o others =>
      obtain ⟨ho, hothers⟩ := List.forall_mem_cons.mp hother
      rw [List.flatten_cons, List.flatten_cons] at heq
      obtain ⟨u, hp, hflat⟩ := h.exists_eq_append ho heq
      exact Nat.succ_le_succ (h.length_le_of_suffix (hp ▸ List.suffix_append o u) hflat hothers)

end Longest

/-! ## The pieces of a text -/

/-- The pieces of a text behind a piece under way, whose scripts are given. -/
def grow (lookup : Lookup) (piece : Text) (scripts : List Code) : Text → List Text
  | [] => [piece]
  | c :: rest =>
    match narrow lookup scripts c with
    | [] => piece :: grow lookup [c] (extensions lookup c) rest
    | code :: codes => grow lookup (piece ++ [c]) (code :: codes) rest

/-- The pieces of a text, each as long as it goes. -/
def segments (lookup : Lookup) : Text → List Text
  | [] => []
  | c :: rest => grow lookup [c] (extensions lookup c) rest

theorem flatten_grow (lookup : Lookup) (piece : Text) (scripts : List Code) (t : Text) :
    (grow lookup piece scripts t).flatten = piece ++ t := by
  induction t generalizing piece scripts with
  | nil => simp [grow]
  | cons c t ih =>
    rw [grow]
    split
    · rw [List.flatten_cons, ih]
      rfl
    · rw [ih]
      simp

@[simp] theorem flatten_segments (lookup : Lookup) (t : Text) :
    (segments lookup t).flatten = t := by
  cases t with
  | nil => rfl
  | cons c rest => exact flatten_grow lookup [c] _ rest

theorem longest_grow {piece : Text} (h : Homogeneous lookup piece) (t : Text) :
    Longest lookup (grow lookup piece (common lookup piece) t) := by
  induction t generalizing piece with
  | nil => exact .cons h (by simp) .nil
  | cons c t ih =>
    rw [grow]
    split
    · -- the code point would leave no script, so the piece ends in front of it
      rename_i hnarrow
      refine .cons h ?_ (ih homogeneous_singleton)
      intro d hd
      rw [flatten_grow] at hd
      obtain rfl := Option.some.inj hd
      rw [homogeneous_append_singleton_iff h.ne_nil, not_not]
      exact hnarrow
    · rename_i code codes hnarrow
      rw [← hnarrow, ← common_append_singleton h.ne_nil]
      refine ih ((homogeneous_append_singleton_iff h.ne_nil).mpr ?_)
      rw [hnarrow]
      exact List.cons_ne_nil code codes

theorem longest_segments (lookup : Lookup) (t : Text) : Longest lookup (segments lookup t) := by
  cases t with
  | nil => exact .nil
  | cons c rest => exact longest_grow homogeneous_singleton rest

/-! ## The best division -/

/-- A division of a text into as few homogeneous pieces as there can be, none of which can be
merged with its neighbour. -/
structure Best (lookup : Lookup) (t : Text) (pieces : List Text) : Prop where
  flatten : pieces.flatten = t
  homogeneous : ∀ p ∈ pieces, Homogeneous lookup p
  unmergeable : pieces.IsChain fun p q => ¬ Homogeneous lookup (p ++ q)
  fewest : ∀ other : List Text, other.flatten = t → (∀ p ∈ other, Homogeneous lookup p) →
    pieces.length ≤ other.length

theorem best_segments (lookup : Lookup) (t : Text) : Best lookup t (segments lookup t) where
  flatten := flatten_segments lookup t
  homogeneous := (longest_segments lookup t).homogeneous
  unmergeable := (longest_segments lookup t).isChain
  fewest other heq hother := by
    rw [← flatten_segments lookup t] at heq
    exact (longest_segments lookup t).length_le heq hother

/-- An inherited code point joins what comes before it, but in front it stands alone. -/
example :
    let lookup : Lookup := fun c =>
      if c = 0x300 then some ["Zinh"] else if c = 0x20 then none else some ["Latn"]
    segments lookup [0x61, 0x300, 0x62, 0x20, 0x300, 0x63] =
      [[0x61, 0x300, 0x62], [0x20], [0x300], [0x63]] := by
  decide

/-! ## Pieces and intervals -/

/-- Neither check refuses a range inside the units. -/
theorem interval_eq_ok (lookup : Lookup) {units : Array CodeUnit} {start length : Int}
    (hlength : 0 < length) (hstart : 0 ≤ start) (hstop : start + length ≤ units.size) :
    interval lookup units start length =
      .ok (Interval.ofText lookup (Text.ofUnits units start (some (start + length)))) := by
  have hinside : ¬ (start < 0 ∨ (units.size : Int) < start + length) := by omega
  rw [interval, if_neg (by omega), if_neg hinside]

/-- What `join` takes is what the piece under way takes. -/
theorem exists_join_eq (lookup : Lookup) (piece : Text) (scripts : List Code) (t : Text) :
    ∃ taken left, t = taken ++ left ∧
      join lookup scripts t = (Text.width taken, taken.foldl (narrow lookup) scripts) ∧
      grow lookup piece scripts t = (piece ++ taken) :: segments lookup left := by
  induction t generalizing piece scripts with
  | nil => exact ⟨[], [], rfl, rfl, by simp [grow, segments]⟩
  | cons c t ih =>
    cases hnarrow : narrow lookup scripts c with
    | nil =>
      refine ⟨[], c :: t, rfl, ?_, ?_⟩
      · simp [join, hnarrow]
      · simp [grow, hnarrow, segments]
    | cons code codes =>
      obtain ⟨taken, left, rfl, hjoin, hgrow⟩ := ih (piece ++ [c]) (code :: codes)
      refine ⟨c :: taken, left, rfl, ?_, ?_⟩
      · simp [join, hnarrow, hjoin]
      · simp [grow, hnarrow, hgrow]

/-- The interval at the start of a text spans its first piece, with the first script that the piece
shares. -/
theorem exists_interval_eq (lookup : Lookup) {t : Text} (ht : t ≠ []) :
    ∃ piece left, t = piece ++ left ∧ piece ≠ [] ∧
      Interval.ofText lookup t = ⟨Text.width piece, (common lookup piece).head?⟩ ∧
      segments lookup t = piece :: segments lookup left := by
  cases t with
  | nil => exact absurd rfl ht
  | cons c rest =>
    obtain ⟨taken, left, rfl, hjoin, hgrow⟩ :=
      exists_join_eq lookup [c] (extensions lookup c) rest
    refine ⟨c :: taken, left, rfl, List.cons_ne_nil c taken, ?_, hgrow⟩
    simp [Interval.ofText, hjoin, common]

end LineRuns.Script
