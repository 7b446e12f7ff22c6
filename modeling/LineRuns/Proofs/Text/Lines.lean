import LineRuns.Text.Basic
import Mathlib.Data.List.DropRight
import Mathlib.Tactic.Common

/-!
# What the lines of a body are

A body is its lines with an end behind each, which may be missing behind the last (`Lined`). An end
is one boundary, or a carriage return with a line feed. Lines are found in two passes, of which the
first takes the carriage returns out; together they find the lines that a body has, and it has no
others (`lined_iff`).
-/

namespace LineRuns.Text

variable {body line rest : Text} {lines more : List Text} {c : CodePoint}

/-- The code points at which a line ends, in a body that may have carriage returns. -/
def endsLine (c : CodePoint) : Bool :=
  c.val = 0x0D || isBoundary c

theorem endsLine_eq_false_iff : endsLine c = false ↔ c.val ≠ 0x0D ∧ isBoundary c = false := by
  rw [endsLine, Bool.or_eq_false_iff, decide_eq_false_iff_not]

/-- The ends of a line in front of what follows it. A carriage return is one only if no line feed
follows; together the two are one. -/
inductive IsEnd (rest : Text) : Text → Prop
  | pair {c d : CodePoint} (hc : c.val = 0x0D) (hd : d.val = 0x0A) : IsEnd rest [c, d]
  | single {c : CodePoint} (hc : endsLine c = true)
      (hrest : c.val = 0x0D → ∀ d ∈ rest.head?, d.val ≠ 0x0A) : IsEnd rest [c]

/-- The lines of a body: none has an end in it, and there is one behind each, but perhaps not behind
the last if this is not empty. -/
inductive Lined : Text → List Text → Prop
  | nil : Lined [] []
  | last {line : Text} (hne : line ≠ []) (hline : ∀ c ∈ line, endsLine c = false) :
      Lined line [line]
  | cons {line stop rest : Text} {more : List Text} (hline : ∀ c ∈ line, endsLine c = false)
      (hstop : IsEnd rest stop) (hrest : Lined rest more) :
      Lined (line ++ (stop ++ rest)) (line :: more)

namespace Lined

theorem endsLine_eq_false (h : Lined body lines) (hline : line ∈ lines) :
    ∀ c ∈ line, endsLine c = false := by
  induction h with
  | nil => exact absurd hline List.not_mem_nil
  | last _ hnone =>
    obtain rfl := List.mem_singleton.mp hline
    exact hnone
  | cons hnone _ _ ih =>
    rcases List.mem_cons.mp hline with rfl | hmore
    · exact hnone
    · exact ih hmore

/-- The code points of a line are in the body. -/
theorem subset (h : Lined body lines) (hline : line ∈ lines) : line ⊆ body := by
  induction h with
  | nil => exact absurd hline List.not_mem_nil
  | last _ _ =>
    obtain rfl := List.mem_singleton.mp hline
    exact List.Subset.refl line
  | cons _ _ _ ih =>
    rcases List.mem_cons.mp hline with rfl | hmore
    · exact List.subset_append_left _ _
    · exact fun c hc => List.mem_append_right _ (List.mem_append_right _ (ih hmore hc))

end Lined

/-! ## The two passes -/

theorem withLineFeeds_cons (hc : c.val ≠ 0x0D) :
    withLineFeeds (c :: rest) = c :: withLineFeeds rest := by
  rw [withLineFeeds.eq_def]
  exact if_neg hc

theorem withLineFeeds_append (h : ∀ c ∈ line, endsLine c = false) :
    withLineFeeds (line ++ rest) = line ++ withLineFeeds rest := by
  induction line with
  | nil => rfl
  | cons c line ih =>
    obtain ⟨hc, hline⟩ := List.forall_mem_cons.mp h
    rw [List.cons_append, withLineFeeds_cons (endsLine_eq_false_iff.mp hc).1, ih hline,
      List.cons_append]

/-- An end becomes one boundary. -/
theorem IsEnd.withLineFeeds_append {stop : Text} (h : IsEnd rest stop) :
    ∃ b, isBoundary b = true ∧ withLineFeeds (stop ++ rest) = b :: withLineFeeds rest := by
  cases h with
  | @pair c d hc hd =>
    refine ⟨0x0A, by decide, ?_⟩
    rw [List.cons_append, List.singleton_append, withLineFeeds, if_pos hc]
    simp only [if_pos hd]
  | @single c hc hrest =>
    rw [List.singleton_append]
    by_cases hreturn : c.val = 0x0D
    · refine ⟨0x0A, by decide, ?_⟩
      rw [withLineFeeds.eq_def]
      simp only [if_pos hreturn]
      cases rest with
      | nil => rfl
      | cons d after => exact if_neg (hrest hreturn d rfl)
    · have hboundary : isBoundary c = true := by simpa [endsLine, hreturn] using hc
      exact ⟨c, hboundary, withLineFeeds_cons hreturn⟩

theorem lines_cons_of_boundary (hc : isBoundary c = true) :
    Text.lines (c :: rest) = [] :: Text.lines rest := by
  rw [Text.lines, if_pos hc]

/-- Before a boundary and at the end, what has none is a line. -/
theorem lines_append (h : ∀ c ∈ line, endsLine c = false) (hrest : Text.lines rest = [] :: more) :
    Text.lines (line ++ rest) = line :: more := by
  induction line with
  | nil => exact hrest
  | cons c line ih =>
    obtain ⟨hc, hline⟩ := List.forall_mem_cons.mp h
    rw [List.cons_append, Text.lines, (endsLine_eq_false_iff.mp hc).2, ih hline]
    rfl

theorem lines_eq_singleton (hne : line ≠ []) (h : ∀ c ∈ line, endsLine c = false) :
    Text.lines line = [line] := by
  induction line with
  | nil => exact absurd rfl hne
  | cons c line ih =>
    obtain ⟨hc, hline⟩ := List.forall_mem_cons.mp h
    rw [Text.lines, (endsLine_eq_false_iff.mp hc).2]
    cases line with
    | nil => rfl
    | cons d line =>
      rw [ih (List.cons_ne_nil d line) hline]
      rfl

/-! ## Lines found and lines that are there -/

theorem Lined.lines_eq (h : Lined body lines) : Text.lines (withLineFeeds body) = lines := by
  induction h with
  | nil => rfl
  | @last line hne hline =>
    have hkept : withLineFeeds (line ++ []) = line ++ [] := withLineFeeds_append hline
    rw [List.append_nil] at hkept
    rw [hkept, lines_eq_singleton hne hline]
  | cons hline hstop _ ih =>
    obtain ⟨b, hb, heq⟩ := hstop.withLineFeeds_append
    rw [withLineFeeds_append hline, heq]
    exact lines_append hline (by rw [lines_cons_of_boundary hb, ih])

/-- An end at the beginning ends an empty line. -/
theorem Lined.cons_end {stop : Text} (hstop : IsEnd rest stop) (hrest : Lined rest more) :
    Lined (stop ++ rest) ([] :: more) :=
  .cons (List.forall_mem_nil _) hstop hrest

/-- A code point that is no boundary goes to the first line. -/
theorem Lined.cons_char (hc : endsLine c = false) (h : Lined rest lines) :
    ∃ found, Lined (c :: rest) found := by
  cases h with
  | nil => exact ⟨_, .last (List.cons_ne_nil c []) (by simpa using hc)⟩
  | last _ hline =>
    exact ⟨_, .last (List.cons_ne_nil c _) (List.forall_mem_cons.mpr ⟨hc, hline⟩)⟩
  | cons hline hstop hrest =>
    rw [← List.cons_append]
    exact ⟨_, .cons (List.forall_mem_cons.mpr ⟨hc, hline⟩) hstop hrest⟩

/-- Every body has lines. -/
theorem exists_lined (body : Text) : ∃ lines, Lined body lines := by
  -- along the first pass, which sees the line feed behind a carriage return
  fun_induction withLineFeeds body with
  | case1 => exact ⟨[], .nil⟩
  | case2 c hc d after hd ih =>
    obtain ⟨lines, hlines⟩ := ih
    exact ⟨_, hlines.cons_end (.pair hc hd)⟩
  | case3 c hc d after hd ih =>
    obtain ⟨lines, hlines⟩ := ih
    have hstop : IsEnd (d :: after) [c] :=
      .single (by simp [endsLine, hc]) (by simpa using fun _ => hd)
    exact ⟨_, hlines.cons_end hstop⟩
  | case4 c hc =>
    have hstop : IsEnd [] [c] := .single (by simp [endsLine, hc]) (by simp)
    exact ⟨_, Lined.nil.cons_end hstop⟩
  | case5 c rest hc ih =>
    obtain ⟨lines, hlines⟩ := ih
    by_cases hboundary : endsLine c = true
    · exact ⟨_, hlines.cons_end (.single hboundary fun h => absurd h hc)⟩
    · exact hlines.cons_char (Bool.eq_false_iff.mpr hboundary)

/-- The lines found in a body are the lines that it has. -/
theorem lined_iff : Lined body lines ↔ lines = Text.lines (withLineFeeds body) := by
  constructor
  · exact fun h => h.lines_eq.symm
  · rintro rfl
    obtain ⟨found, hfound⟩ := exists_lined body
    rwa [hfound.lines_eq]

/-! ## Blank lines -/

/-- Nothing is left of a blank text, and of no other. -/
theorem trimmed_eq_nil_iff {t : Text} : t.trimmed = [] ↔ ∀ c ∈ t, isBlank c = true := by
  show (t.dropWhile isBlank).rdropWhile isBlank = [] ↔ _
  rw [List.rdropWhile_eq_nil_iff]
  constructor
  · intro h c hc
    rw [← List.takeWhile_append_dropWhile (p := isBlank) (l := t)] at hc
    rcases List.mem_append.mp hc with hfront | hrest
    · exact List.mem_takeWhile_imp hfront
    · exact h c hrest
  · intro h c hc
    exact h c ((List.dropWhile_sublist isBlank).mem hc)

end LineRuns.Text
