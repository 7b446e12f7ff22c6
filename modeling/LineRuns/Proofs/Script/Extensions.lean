import LineRuns.Proofs.Script.Segments
import Mathlib.Data.List.Chain

/-!
# Script tags of pieces

Putting the codes of a lookup in order loses none but those over the limit and adds none. So where
a lookup gives named codes, the tag of a piece is a script that the piece shares, and pieces with
one tag could be merged.
-/

namespace LineRuns.Script

variable {lookup : Lookup} {s : Code} {c : CodePoint} {p q : Text}

/-! ## The codes of a code point -/

theorem mem_insert {code : Code} {codes : List Code} :
    s ∈ insert code codes ↔ s = code ∨ s ∈ codes := by
  induction codes with
  | nil => simp [insert]
  | cons first rest ih =>
    rw [insert]
    split
    · exact List.mem_cons
    · split
      · rename_i heq
        subst heq
        simp
      · rw [List.mem_cons, ih, List.mem_cons, or_left_comm]

theorem mem_ordered {codes : List Code} : s ∈ ordered codes ↔ s ∈ codes := by
  induction codes with
  | nil => rfl
  | cons code rest ih =>
    show s ∈ insert code (ordered rest) ↔ _
    rw [mem_insert, ih, List.mem_cons]

/-- The lookup gives scripts at a code point, and all of them have names. -/
def IsNamed (lookup : Lookup) (c : CodePoint) : Prop :=
  ∃ codes, lookup c = some codes ∧ codes ≠ [] ∧
    ∀ code ∈ codes, Unicode.namedScripts.contains code = true

theorem IsNamed.extensions_ne_nil (h : IsNamed lookup c) : extensions lookup c ≠ [] := by
  obtain ⟨codes, hlookup, hne, -⟩ := h
  obtain ⟨s, hs⟩ := List.exists_mem_of_ne_nil codes hne
  have hordered : ordered codes ≠ [] := List.ne_nil_of_mem (mem_ordered.mpr hs)
  rw [extensions, hlookup]
  simpa [maxScripts] using hordered

/-- A named script of a code point is its own tag. -/
theorem IsNamed.tag_eq (h : IsNamed lookup c) (hs : s ∈ extensions lookup c) :
    tag (some s) = s := by
  obtain ⟨codes, hlookup, -, hnamed⟩ := h
  rw [extensions, hlookup] at hs
  have hmem : s ∈ codes := mem_ordered.mp (List.mem_of_mem_take hs)
  exact if_pos (hnamed s hmem)

/-! ## The scripts of a piece -/

/-- A script that is left admits every code point of the piece. -/
theorem admits_of_mem_common (hs : s ∈ common lookup p) (hc : c ∈ p) : Admits lookup s c := by
  cases p with
  | nil => exact absurd hc List.not_mem_nil
  | cons d rest =>
    obtain ⟨hfirst, hrest⟩ := mem_common_cons.mp hs
    rcases List.mem_cons.mp hc with rfl | hc
    · exact fun _ => hfirst
    · exact hrest c hc

/-- Pieces that share one script can be merged. -/
theorem homogeneous_append_of_mem_common (hp : s ∈ common lookup p) (hq : s ∈ common lookup q) :
    Homogeneous lookup (p ++ q) := by
  cases p with
  | nil => exact absurd hp List.not_mem_nil
  | cons c rest =>
    obtain ⟨hfirst, hrest⟩ := mem_common_cons.mp hp
    refine Or.inr ⟨s, hfirst, fun d hd => ?_⟩
    rcases List.mem_append.mp hd with hd | hd
    · exact hrest d hd
    · exact admits_of_mem_common hq hd

/-- Where the lookup gives named codes, the tag of a homogeneous piece is a script that it
shares. -/
theorem tag_mem_common (h : Homogeneous lookup p) (hnamed : ∀ c ∈ p, IsNamed lookup c) :
    tag (common lookup p).head? ∈ common lookup p := by
  cases hcommon : common lookup p with
  | nil =>
    -- only a code point without scripts shares none, and here each has some
    obtain ⟨c, rfl, hc⟩ := h.eq_singleton_of_common hcommon
    exact absurd hc (hnamed c (List.mem_singleton_self c)).extensions_ne_nil
  | cons s rest =>
    cases p with
    | nil => exact absurd h id
    | cons c more =>
      have hs : s ∈ common lookup (c :: more) := hcommon ▸ List.mem_cons_self
      have htag := (hnamed c List.mem_cons_self).tag_eq (mem_common_cons.mp hs).1
      rw [List.head?_cons, htag]
      exact List.mem_cons_self

/-- Neighbours that cannot be merged have different tags. -/
theorem isChain_tag {pieces : List Text} (h : Longest lookup pieces)
    (hnamed : ∀ c ∈ pieces.flatten, IsNamed lookup c) :
    (pieces.map fun p => tag (common lookup p).head?).IsChain (· ≠ ·) := by
  rw [List.isChain_map]
  have hshares : ∀ p ∈ pieces, tag (common lookup p).head? ∈ common lookup p :=
    fun p hp => tag_mem_common (h.homogeneous p hp) fun c hc =>
      hnamed c (List.mem_flatten_of_mem hp hc)
  refine h.isChain.imp_of_mem_imp fun p q hp hq hmerge heq => hmerge ?_
  exact homogeneous_append_of_mem_common (hshares p hp) (heq ▸ hshares q hq)

end LineRuns.Script
