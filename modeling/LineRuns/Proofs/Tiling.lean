import Mathlib.Data.List.Pairwise
import Mathlib.Order.Fin.Basic

/-!
# Spans that follow one another

Runs and logical runs are both spans of code units. `Consecutive` says of a list of spans that
none is empty, that each starts where the one before it stops, and that together they reach from
one position to another. It is stated over any type of spans, by a start and a stop, and shaped
like the lists that it is about, so that each fact below is one induction. Between the ends each
position is held by exactly one span, and for spans whose starts increase this is the same
(`Consecutive.of_holders`).
-/

namespace LineRuns

variable {α β : Type} {start stop : α → Int} {a b c : Int}

/-- Spans that are not empty and follow one another from `a` to `b`. -/
def Consecutive (start stop : α → Int) (a b : Int) : List α → Prop
  | [] => a = b
  | x :: rest => start x = a ∧ start x < stop x ∧ Consecutive start stop (stop x) b rest

/-- The number of spans that hold a position. -/
def holders (start stop : α → Int) (p : Int) (xs : List α) : Nat :=
  xs.countP fun x => start x ≤ p ∧ p < stop x

section Holders

variable {x : α} {xs : List α} {p : Int}

theorem holders_cons_of_holds (h : start x ≤ p ∧ p < stop x) :
    holders start stop p (x :: xs) = holders start stop p xs + 1 :=
  List.countP_cons_of_pos (decide_eq_true h)

theorem holders_cons_of_not_holds (h : ¬ (start x ≤ p ∧ p < stop x)) :
    holders start stop p (x :: xs) = holders start stop p xs :=
  List.countP_cons_of_neg (mt of_decide_eq_true h)

theorem holders_pos (hx : x ∈ xs) (h : start x ≤ p ∧ p < stop x) : 0 < holders start stop p xs :=
  List.countP_pos_iff.mpr ⟨x, hx, decide_eq_true h⟩

/-- No span holds a position that all of them start behind. -/
theorem holders_eq_zero (h : ∀ x ∈ xs, p < start x) : holders start stop p xs = 0 := by
  refine List.countP_eq_zero.mpr fun x hx hin => ?_
  have hbehind := h x hx
  have hholds := (of_decide_eq_true hin).1
  omega

end Holders

namespace Consecutive

theorem append {xs ys : List α} (hx : Consecutive start stop a b xs)
    (hy : Consecutive start stop b c ys) : Consecutive start stop a c (xs ++ ys) := by
  induction xs generalizing a with
  | nil =>
    obtain rfl : a = b := hx
    exact hy
  | cons x rest ih =>
    obtain ⟨hstart, hpos, hrest⟩ := hx
    exact ⟨hstart, hpos, ih hrest⟩

/-- Spans in two parts meet somewhere. -/
theorem exists_of_append {xs ys : List α} (h : Consecutive start stop a c (xs ++ ys)) :
    ∃ b, Consecutive start stop a b xs ∧ Consecutive start stop b c ys := by
  induction xs generalizing a with
  | nil => exact ⟨a, rfl, h⟩
  | cons x rest ih =>
    obtain ⟨hstart, hpos, hrest⟩ := h
    obtain ⟨b, hx, hy⟩ := ih hrest
    exact ⟨b, ⟨hstart, hpos, hx⟩, hy⟩

/-- Spans that are not empty follow one another if neighbours meet and the ends are those of the
first and the last. -/
theorem of_isChain {xs : List α} (hnil : xs = [] → a = b) (hfirst : ∀ x ∈ xs.head?, start x = a)
    (hpos : ∀ x ∈ xs, start x < stop x) (hmeet : xs.IsChain fun x y => start y = stop x)
    (hlast : ∀ x ∈ xs.getLast?, stop x = b) : Consecutive start stop a b xs := by
  induction xs generalizing a with
  | nil => exact hnil rfl
  | cons x rest ih =>
    refine ⟨hfirst x rfl, hpos x List.mem_cons_self, ?_⟩
    cases rest with
    | nil => exact hlast x rfl
    | cons y rest =>
      obtain ⟨hxy, hrest⟩ := List.isChain_cons_cons.mp hmeet
      refine ih (fun h => absurd h (List.cons_ne_nil y rest)) ?_ ?_ hrest ?_
      · rintro z ⟨⟩
        exact hxy
      · exact fun z hz => hpos z (List.mem_cons_of_mem x hz)
      · rwa [List.getLast?_cons_cons] at hlast

theorem le {xs : List α} (h : Consecutive start stop a b xs) : a ≤ b := by
  induction xs generalizing a with
  | nil =>
    obtain rfl : a = b := h
    exact le_refl a
  | cons x rest ih =>
    obtain ⟨hstart, hpos, hrest⟩ := h
    have hle := ih hrest
    omega

/-- Between a position and itself there are no spans. -/
theorem eq_nil {xs : List α} (h : Consecutive start stop a a xs) : xs = [] := by
  cases xs with
  | nil => rfl
  | cons x rest =>
    obtain ⟨hstart, hpos, hrest⟩ := h
    have hle := hrest.le
    omega

/-- Each span lies between the ends. -/
theorem bounds {xs : List α} (h : Consecutive start stop a b xs) {x : α} (hx : x ∈ xs) :
    a ≤ start x ∧ start x < stop x ∧ stop x ≤ b := by
  induction xs generalizing a with
  | nil => exact absurd hx List.not_mem_nil
  | cons y rest ih =>
    obtain ⟨hstart, hpos, hrest⟩ := h
    rcases List.mem_cons.mp hx with rfl | hx
    · exact ⟨hstart.ge, hpos, hrest.le⟩
    · obtain ⟨h1, h2, h3⟩ := ih hrest hx
      exact ⟨by omega, h2, h3⟩

/-- Each position between the ends lies in a span. -/
theorem exists_mem {xs : List α} (h : Consecutive start stop a b xs) {p : Int} (ha : a ≤ p)
    (hb : p < b) : ∃ x ∈ xs, start x ≤ p ∧ p < stop x := by
  induction xs generalizing a with
  | nil =>
    obtain rfl : a = b := h
    omega
  | cons x rest ih =>
    obtain ⟨hstart, -, hrest⟩ := h
    rcases lt_or_ge p (stop x) with hlt | hge
    · exact ⟨x, List.mem_cons_self, by omega, hlt⟩
    · obtain ⟨y, hy, hinside⟩ := ih hrest hge
      exact ⟨y, List.mem_cons_of_mem x hy, hinside⟩

/-- Of two spans the earlier stops before the later starts. -/
theorem pairwise {xs : List α} (h : Consecutive start stop a b xs) :
    xs.Pairwise fun x y => stop x ≤ start y := by
  induction xs generalizing a with
  | nil => exact List.Pairwise.nil
  | cons x rest ih =>
    obtain ⟨-, -, hrest⟩ := h
    exact List.pairwise_cons.mpr ⟨fun y hy => (hrest.bounds hy).1, ih hrest⟩

/-- Each span starts behind the starts of those before it. -/
theorem pairwise_start {xs : List α} (h : Consecutive start stop a b xs) :
    xs.Pairwise fun x y => start x < start y :=
  h.pairwise.imp_of_mem fun hx _ hxy => (h.bounds hx).2.1.trans_le hxy

/-- Neighbours meet. -/
theorem isChain {xs : List α} (h : Consecutive start stop a b xs) :
    xs.IsChain fun x y => start y = stop x := by
  induction xs generalizing a with
  | nil => exact List.IsChain.nil
  | cons x rest ih =>
    obtain ⟨-, -, hrest⟩ := h
    cases rest with
    | nil => exact List.IsChain.singleton x
    | cons y rest => exact List.IsChain.cons_cons hrest.1 (ih hrest)

theorem getLast?_stop {xs : List α} (h : Consecutive start stop a b xs) (hne : xs ≠ []) :
    xs.getLast?.map stop = some b := by
  induction xs generalizing a with
  | nil => exact absurd rfl hne
  | cons x rest ih =>
    obtain ⟨-, -, hrest⟩ := h
    cases rest with
    | nil =>
      obtain rfl : stop x = b := hrest
      rfl
    | cons y rest =>
      rw [List.getLast?_cons_cons]
      exact ih hrest (List.cons_ne_nil y rest)

/-- What is not empty lies inside at most one of the spans. -/
theorem index_unique {xs : List α} (h : Consecutive start stop a b xs) {p q : Int} (hpq : p < q)
    {i j : Fin xs.length} (hi : start xs[i] ≤ p ∧ q ≤ stop xs[i])
    (hj : start xs[j] ≤ p ∧ q ≤ stop xs[j]) : i = j := by
  have hsep := List.pairwise_iff_getElem.mp h.pairwise
  rcases lt_trichotomy i j with hlt | heq | hgt
  · have hij : stop xs[i] ≤ start xs[j] := hsep i j i.isLt j.isLt hlt
    omega
  · exact heq
  · have hji : stop xs[j] ≤ start xs[i] := hsep j i j.isLt i.isLt hgt
    omega

/-- Each position between the ends lies in exactly one span. -/
theorem holders_eq_one {xs : List α} (h : Consecutive start stop a b xs) {p : Int} (ha : a ≤ p)
    (hb : p < b) : holders start stop p xs = 1 := by
  induction xs generalizing a with
  | nil =>
    obtain rfl : a = b := h
    omega
  | cons x rest ih =>
    obtain ⟨hstart, -, hrest⟩ := h
    rcases lt_or_ge p (stop x) with hlt | hge
    · have hlater : ∀ y ∈ rest, p < start y := fun y hy => hlt.trans_le (hrest.bounds hy).1
      rw [holders_cons_of_holds ⟨by omega, hlt⟩, holders_eq_zero hlater]
    · rw [holders_cons_of_not_holds (by omega), ih hrest hge]

/-- Spans that are not empty and stay between the ends follow one another if each starts behind the
starts of those before it and each position lies in exactly one. -/
theorem of_holders {xs : List α} (hle : a ≤ b)
    (hinside : ∀ x ∈ xs, a ≤ start x ∧ start x < stop x ∧ stop x ≤ b)
    (hincreasing : xs.Pairwise fun x y => start x < start y)
    (hone : ∀ p, a ≤ p → p < b → holders start stop p xs = 1) :
    Consecutive start stop a b xs := by
  induction xs generalizing a with
  | nil =>
    refine le_antisymm hle (le_of_not_gt fun hlt => ?_)
    have hfirst := hone a (le_refl a) hlt
    cases hfirst
  | cons x rest ih =>
    obtain ⟨⟨hax, hpos, hxb⟩, hrest⟩ := List.forall_mem_cons.mp hinside
    obtain ⟨hafter, hincreasing⟩ := List.pairwise_cons.mp hincreasing
    -- nothing but the first span could hold the first position
    have hstart : start x = a := by
      by_contra hne
      have hbehind : ∀ y ∈ x :: rest, a < start y := by
        refine List.forall_mem_cons.mpr ⟨by omega, fun y hy => ?_⟩
        have hxy := hafter y hy
        omega
      have hfirst := hone a (le_refl a) (by omega)
      rw [holders_eq_zero hbehind] at hfirst
      cases hfirst
    -- where a later span started within the first, the position would be held twice
    have hbehind : ∀ y ∈ rest, stop x ≤ start y := by
      intro y hy
      by_contra hwithin
      have hxy := hafter y hy
      obtain ⟨-, hypos, hyb⟩ := hrest y hy
      have hown := holders_pos hy ⟨le_refl (start y), hypos⟩
      have htwice := hone (start y) (by omega) (by omega)
      rw [holders_cons_of_holds (by omega)] at htwice
      omega
    refine ⟨hstart, hpos, ih hxb (fun y hy => ⟨hbehind y hy, (hrest y hy).2⟩) hincreasing ?_⟩
    intro p hp hpb
    have hcount := hone p (by omega) hpb
    rwa [holders_cons_of_not_holds (by omega)] at hcount

/-- Spans cut up further: each gives spans from its start to its stop, which together follow one
another as the given spans did. -/
theorem flatMap {start' stop' : β → Int} {xs : List α} {f : α → List β}
    (h : Consecutive start stop a b xs)
    (hf : ∀ x ∈ xs, Consecutive start' stop' (start x) (stop x) (f x)) :
    Consecutive start' stop' a b (xs.flatMap f) := by
  induction xs generalizing a with
  | nil => exact h
  | cons x rest ih =>
    obtain ⟨rfl, -, hrest⟩ := h
    rw [List.flatMap_cons]
    have hx := hf x List.mem_cons_self
    exact hx.append (ih hrest fun y hy => hf y (List.mem_cons_of_mem x hy))

/-- Of spans cut up further, those inside one span are the ones that it gave. -/
theorem filter_flatMap {start' stop' : β → Int} {xs : List α} {f : α → List β}
    (h : Consecutive start stop a b xs)
    (hf : ∀ x ∈ xs, Consecutive start' stop' (start x) (stop x) (f x)) {x : α} (hx : x ∈ xs) :
    ((xs.flatMap f).filter fun y => start x ≤ start' y ∧ stop' y ≤ stop x) = f x := by
  induction xs generalizing a with
  | nil => exact absurd hx List.not_mem_nil
  | cons z rest ih =>
    have hsep := List.pairwise_cons.mp h.pairwise
    obtain ⟨-, -, hrest⟩ := h
    have hz := hf z List.mem_cons_self
    have hf' : ∀ y ∈ rest, Consecutive start' stop' (start y) (stop y) (f y) :=
      fun y hy => hf y (List.mem_cons_of_mem z hy)
    rw [List.flatMap_cons, List.filter_append]
    rcases List.mem_cons.mp hx with rfl | hx
    · -- all that the first span gave is inside, and all else starts too late
      have hown : ((f x).filter fun y => start x ≤ start' y ∧ stop' y ≤ stop x) = f x := by
        rw [List.filter_eq_self]
        intro y hy
        obtain ⟨h1, -, h3⟩ := hz.bounds hy
        exact decide_eq_true ⟨h1, h3⟩
      have hlater : ((rest.flatMap f).filter fun y =>
          start x ≤ start' y ∧ stop' y ≤ stop x) = [] := by
        rw [List.filter_eq_nil_iff]
        intro y hy hin
        obtain ⟨h1, h2, -⟩ := (hrest.flatMap hf').bounds hy
        have h3 := (of_decide_eq_true hin).2
        omega
      rw [hown, hlater, List.append_nil]
    · -- what the first span gave stops too early
      have hearlier : ((f z).filter fun y =>
          start x ≤ start' y ∧ stop' y ≤ stop x) = [] := by
        rw [List.filter_eq_nil_iff]
        intro y hy hin
        obtain ⟨-, h2, h3⟩ := hz.bounds hy
        have h1 := (of_decide_eq_true hin).1
        have hzx := hsep.1 x hx
        omega
      rw [hearlier, List.nil_append, ih hrest hf' hx]

end Consecutive

end LineRuns
