import LineRuns.Proofs.Script.Extensions
import LineRuns.Proofs.Script.Interval
import Mathlib.Data.Finset.Card
import Mathlib.Data.List.Sort
import Mathlib.Data.Prod.Lex
import Mathlib.Data.String.Basic

/-!
# Sets of scripts in order

A lookup enumerates the scripts of a code point in any order, and the first one that is left in the
end names a run. So sets are put in an order of their own: scripts as the table of the Script
property first comes to them, then all that are not in it, by name (`Before`). As it is a strict
order of all codes, one list only has the codes of a set in order, and its front does not depend on
how the set was enumerated. What code points leave of some scripts does not depend on the order in
which they join them either.
-/

namespace LineRuns.Script

variable {s t : Code} {codes : List Code}

/-! ## The order of scripts -/

/-- The scripts of the rows of the table, one after another. -/
def appearances : List Code :=
  Unicode.scriptRows.map Prod.snd

/-- The first row of the table that has a script. -/
def firstRow? (s : Code) : Option Nat :=
  appearances.idxOf? s

/-- The order of scripts: by their first rows in the table, before all that are not there, and these
by name. -/
def Before (s t : Code) : Prop :=
  match firstRow? s, firstRow? t with
  | some i, some j => i < j
  | some _, none => True
  | none, some _ => False
  | none, none => s < t

theorem lt_of_firstRow? {i : Nat} (h : firstRow? s = some i) : i < appearances.length :=
  (List.idxOf?_eq_some_iff.mp h).1

theorem firstRow?_inj {i : Nat} (hs : firstRow? s = some i) (ht : firstRow? t = some i) :
    s = t := by
  obtain ⟨_, hs, -⟩ := List.idxOf?_eq_some_iff.mp hs
  obtain ⟨_, ht, -⟩ := List.idxOf?_eq_some_iff.mp ht
  exact hs.symm.trans ht

/-- Codes that stay keep their order when others are dropped. -/
theorem idxOf_filter_lt_iff {xs : List Code} {p : Code → Bool} (hs : p s = true)
    (ht : p t = true) :
    (xs.filter p).idxOf s < (xs.filter p).idxOf t ↔ xs.idxOf s < xs.idxOf t := by
  induction xs with
  | nil => rfl
  | cons x xs ih =>
    cases hx : p x with
    | true =>
      rw [List.filter_cons_of_pos hx]
      simp only [List.idxOf_cons]
      cases x == s <;> cases x == t <;> simp [ih]
    | false =>
      have hne : ∀ u, p u = true → x ≠ u := by
        rintro u hu rfl
        rw [hu] at hx
        cases hx
      rw [List.filter_cons_of_neg (by simp [hx]), ih, List.idxOf_cons_ne xs (hne s hs),
        List.idxOf_cons_ne xs (hne t ht), Nat.succ_lt_succ_iff]

/-- Each once, codes stand in the order of their first appearances. -/
theorem idxOf_eraseDups_lt_iff {xs : List Code} :
    xs.eraseDups.idxOf s < xs.eraseDups.idxOf t ↔ xs.idxOf s < xs.idxOf t := by
  induction hn : xs.length using Nat.strongRecOn generalizing xs with
  | _ n ih =>
    cases xs with
    | nil => rfl
    | cons x xs =>
      have hless := List.length_filter_le (fun y => !y == x) xs
      rw [List.length_cons] at hn
      have hrest : (xs.filter fun y => !y == x).eraseDups.idxOf s <
            (xs.filter fun y => !y == x).eraseDups.idxOf t ↔
          (xs.filter fun y => !y == x).idxOf s < (xs.filter fun y => !y == x).idxOf t :=
        ih _ (by omega) rfl
      rw [List.eraseDups_cons]
      by_cases hs : x = s
      · subst hs
        by_cases ht : x = t
        · simp [ht]
        · simp [List.idxOf_cons_ne _ ht]
      · by_cases ht : x = t
        · subst ht
          simp
        · rw [List.idxOf_cons_ne _ hs, List.idxOf_cons_ne _ ht, List.idxOf_cons_ne _ hs,
            List.idxOf_cons_ne _ ht, Nat.succ_lt_succ_iff, Nat.succ_lt_succ_iff, hrest]
          apply idxOf_filter_lt_iff
          · simp [Ne.symm hs]
          · simp [Ne.symm ht]

/-- Ranks compare as first rows do, where a script without rows comes after all of them. -/
theorem rank_lt_rank_iff :
    rank s < rank t ↔
      (firstRow? s).getD appearances.length < (firstRow? t).getD appearances.length := by
  rw [firstRow?, firstRow?, ← List.idxOf_eq_getD_idxOf?, ← List.idxOf_eq_getD_idxOf?]
  exact idxOf_eraseDups_lt_iff

/-- Codes are compared by rank and then by name. -/
theorem precedes_iff_toLex_lt : precedes s t = true ↔ toLex (rank s, s) < toLex (rank t, t) := by
  rw [precedes, Prod.Lex.toLex_lt_toLex]
  simp

theorem precedes_iff_before : precedes s t = true ↔ Before s t := by
  have hlt := rank_lt_rank_iff (s := s) (t := t)
  have hgt := rank_lt_rank_iff (s := t) (t := s)
  have heq : rank s = rank t ↔
      (firstRow? s).getD appearances.length = (firstRow? t).getD appearances.length := by omega
  rw [precedes_iff_toLex_lt, Prod.Lex.toLex_lt_toLex, hlt, heq, Before]
  cases hs : firstRow? s with
  | none =>
    cases ht : firstRow? t with
    | none => simp
    | some j =>
      have hj := lt_of_firstRow? ht
      simp only [Option.getD_none, Option.getD_some, iff_false]
      omega
  | some i =>
    have hi := lt_of_firstRow? hs
    cases ht : firstRow? t with
    | none => simpa using Or.inl hi
    | some j =>
      simp only [Option.getD_some, or_iff_left_iff_imp, and_imp]
      -- there is no tie to break: two codes with one first row are one
      rintro rfl hname
      exact absurd hname (firstRow?_inj hs ht ▸ lt_irrefl s)

theorem before_iff_toLex_lt : Before s t ↔ toLex (rank s, s) < toLex (rank t, t) :=
  precedes_iff_before.symm.trans precedes_iff_toLex_lt

instance : IsStrictOrder Code Before where
  irrefl _ h := lt_irrefl _ (before_iff_toLex_lt.mp h)
  trans _ _ _ hst htu :=
    before_iff_toLex_lt.mpr ((before_iff_toLex_lt.mp hst).trans (before_iff_toLex_lt.mp htu))

/-- Of two codes one comes before the other. -/
theorem before_or_eq_or_before (s t : Code) : Before s t ∨ s = t ∨ Before t s := by
  rcases lt_trichotomy (toLex (rank s, s)) (toLex (rank t, t)) with h | h | h
  · exact Or.inl (before_iff_toLex_lt.mpr h)
  · exact Or.inr (Or.inl (congrArg Prod.snd (toLex.injective h)))
  · exact Or.inr (Or.inr (before_iff_toLex_lt.mpr h))

/-! ## Sets in order -/

theorem pairwise_insert {code : Code} (h : codes.Pairwise Before) :
    (insert code codes).Pairwise Before := by
  induction codes with
  | nil => exact List.pairwise_singleton Before code
  | cons first rest ih =>
    obtain ⟨hfirst, hrest⟩ := List.pairwise_cons.mp h
    rw [insert]
    split
    · rename_i hprecedes
      have hbefore := precedes_iff_before.mp hprecedes
      have hall : ∀ s ∈ first :: rest, Before code s := by
        intro s hs
        rcases List.mem_cons.mp hs with rfl | hs
        · exact hbefore
        · exact IsTrans.trans code first s hbefore (hfirst s hs)
      exact List.pairwise_cons.mpr ⟨hall, h⟩
    · rename_i hnot
      rw [precedes_iff_before] at hnot
      split
      · exact h
      · rename_i hne
        have hafter := ((before_or_eq_or_before code first).resolve_left hnot).resolve_left hne
        have hall : ∀ s ∈ insert code rest, Before first s := by
          intro s hs
          rcases mem_insert.mp hs with rfl | hs
          · exact hafter
          · exact hfirst s hs
        exact List.pairwise_cons.mpr ⟨hall, ih hrest⟩

theorem pairwise_ordered (codes : List Code) : (ordered codes).Pairwise Before := by
  induction codes with
  | nil => exact List.Pairwise.nil
  | cons code rest ih => exact pairwise_insert ih

theorem toFinset_ordered (codes : List Code) : (ordered codes).toFinset = codes.toFinset := by
  ext s
  rw [List.mem_toFinset, List.mem_toFinset, mem_ordered]

/-- One list only has the codes of a set in order. -/
theorem ordered_eq_of_toFinset_eq {others : List Code} (h : codes.toFinset = others.toFinset) :
    ordered codes = ordered others := by
  apply (pairwise_ordered codes).eq_of_mem_iff (pairwise_ordered others)
  intro s
  rw [mem_ordered, mem_ordered, ← List.mem_toFinset, h, List.mem_toFinset]

theorem length_ordered (codes : List Code) : (ordered codes).length = codes.toFinset.card := by
  rw [← toFinset_ordered, List.toFinset_card_of_nodup (pairwise_ordered codes).nodup]

/-- The front of a set: its codes in order, as far as a limit allows, and all that is left out comes
after them. -/
structure IsFront (limit : Nat) (scripts : Finset Code) (kept : List Code) : Prop where
  increasing : kept.Pairwise Before
  length : kept.length = min limit scripts.card
  mem : ∀ s ∈ kept, s ∈ scripts
  before : ∀ t ∈ kept, ∀ s ∈ scripts, s ∉ kept → Before t s

theorem isFront_take_ordered (limit : Nat) (codes : List Code) :
    IsFront limit codes.toFinset ((ordered codes).take limit) := by
  have hparts := pairwise_ordered codes
  rw [← List.take_append_drop limit (ordered codes), List.pairwise_append] at hparts
  obtain ⟨hkept, -, hacross⟩ := hparts
  constructor
  case increasing => exact hkept
  case length => rw [List.length_take, length_ordered]
  case mem =>
    intro s hs
    rw [List.mem_toFinset, ← mem_ordered]
    exact List.mem_of_mem_take hs
  case before =>
    -- a code of the set that is not at the front is behind it
    intro t ht s hs hleft
    rw [List.mem_toFinset, ← mem_ordered, ← List.take_append_drop limit (ordered codes)] at hs
    exact hacross t ht s ((List.mem_append.mp hs).resolve_left hleft)

/-! ## What code points leave -/

theorem foldl_narrow_eq_filter (lookup : Lookup) (current : List Code) (cs : Text) :
    cs.foldl (narrow lookup) current = current.filter fun s =>
      ∀ c ∈ cs, extensions lookup c ≠ [inherited] → s ∈ extensions lookup c := by
  rw [foldl_narrow]
  apply List.filter_congr
  intro s _
  rw [Bool.eq_iff_iff, decide_eq_true_iff, List.all_eq_true]
  apply forall₂_congr
  intro c _
  rw [Bool.or_eq_true, List.contains_iff_mem, isInherited, beq_iff_eq, or_iff_not_imp_left]

/-- Sets alone count. The scripts of a code point are the front of the set that the lookup gives for
it, up to thirty-two, whatever the enumeration. What code points leave of some scripts are those, in
the order that they had, that all of them have but the ones that are inherited alone; so it is the
same for the code points in any other order or number. -/
theorem sets_alone_count :
    (∀ scripts : Finset Code, ∃ kept, IsFront 32 scripts kept ∧
      ∀ (lookup : Lookup) (c : CodePoint) (codes : List Code), lookup c = some codes →
        codes.toFinset = scripts → extensions lookup c = kept) ∧
    ∀ (lookup : Lookup) (current : List Code) (cs : Text),
      cs.foldl (narrow lookup) current = (current.filter fun s =>
        ∀ c ∈ cs, extensions lookup c ≠ [inherited] → s ∈ extensions lookup c) ∧
      ∀ others : Text, (∀ c, c ∈ others ↔ c ∈ cs) →
        others.foldl (narrow lookup) current = cs.foldl (narrow lookup) current := by
  constructor
  · intro scripts
    have hfront := isFront_take_ordered 32 scripts.toList
    rw [Finset.toList_toFinset] at hfront
    refine ⟨_, hfront, ?_⟩
    intro lookup c codes hlookup hset
    rw [← Finset.toList_toFinset scripts] at hset
    rw [extensions, hlookup, ← ordered_eq_of_toFinset_eq hset]
    rfl
  · intro lookup current cs
    refine ⟨foldl_narrow_eq_filter lookup current cs, ?_⟩
    intro others hsame
    rw [foldl_narrow_eq_filter, foldl_narrow_eq_filter]
    simp only [hsame]

/-- Forty codes that are not in the table. -/
def fortyCodes : List Code :=
  (List.range 40).map fun n => String.ofList (List.replicate (n + 1) 'q')

/-- Forty codes forwards, and backwards with each twice, give the same thirty-two; and a mark that is
inherited alone leaves what a repeated letter leaves. -/
theorem sets_alone_count_fortyCodes :
    (∃ kept, kept.length = 32 ∧ kept.Pairwise Before ∧
      extensions (fun _ => some fortyCodes) 0x61 = kept ∧
      extensions (fun _ => some (fortyCodes ++ fortyCodes).reverse) 0x61 = kept) ∧
    ([0x300, 0x61, 0x61] : Text).foldl
        (narrow fun c => if c = 0x300 then some [inherited] else some ["Latn"]) ["Grek", "Latn"] =
      ([0x61, 0x300] : Text).foldl
        (narrow fun c => if c = 0x300 then some [inherited] else some ["Latn"])
        ["Grek", "Latn"] := by
  obtain ⟨hsets, hnarrow⟩ := sets_alone_count
  constructor
  · obtain ⟨kept, hfront, hkept⟩ := hsets fortyCodes.toFinset
    have hcard : fortyCodes.toFinset.card = 40 :=
      List.toFinset_card_of_nodup (by decide +kernel)
    refine ⟨kept, ?_, hfront.increasing, hkept _ _ fortyCodes rfl rfl, hkept _ _ _ rfl ?_⟩
    · rw [hfront.length, hcard]
      rfl
    · rw [List.toFinset_reverse, List.toFinset_append, Finset.union_idempotent]
  · apply (hnarrow _ _ _).2
    intro c
    simp only [List.mem_cons, List.not_mem_nil, or_false]
    tauto

end LineRuns.Script
