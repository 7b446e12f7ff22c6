import LineRuns.Proofs.Bidi.Explicit
import LineRuns.Proofs.Line.Tiling

/-!
# Lines that cannot be analysed

Without a fault, an analysis fails for one reason: a character that has no class stands where no
override gives it one. Whatever else a line is made of, controls in any number and order included,
its levels are resolved.
-/

namespace LineRuns

open Bidi (Context Embedding)

/-- What the controls of the beginning of a text leave in effect for the next character, where the
whole text decides the base level. -/
def Bidi.Embedding.behind (t before : Text) : Embedding :=
  let base := Bidi.baseLevel (t.map Unicode.bidiClass)
  (before.map Unicode.bidiClass).foldl (Embedding.after base) (.start base)

/-- What is in effect for a character depends on the initiators that are open in front of it: an end
closes the innermost, and one takes effect if there is room for its level. -/
theorem Bidi.Embedding.behind_eq_under (t before : Text) :
    ((Embedding.behind t before).level, (Embedding.behind t before).override) =
      Embedding.under (Bidi.baseLevel (t.map Unicode.bidiClass))
        ((before.map Unicode.bidiClass).foldl Embedding.stillOpen []) :=
  Embedding.foldl_after_eq_under (Bidi.baseLevel_lt_limit _) _

/-- Some character has no class, and no override is in effect where it stands. -/
def Bidi.HasBare (t : Text) : Prop :=
  ∃ before c rest, t = before ++ c :: rest ∧ Unicode.bidiClass c = .unassigned ∧
    (Embedding.behind t before).override = none

namespace Bidi

variable {t : Text}

/-- A text has a bare character if and only if one without a class stands where the initiators that
are open leave no override. -/
theorem hasBare_iff : HasBare t ↔ ∃ before c rest, t = before ++ c :: rest ∧
    Unicode.bidiClass c = .unassigned ∧
    (Embedding.under (baseLevel (t.map Unicode.bidiClass))
      ((before.map Unicode.bidiClass).foldl Embedding.stillOpen [])).2 = none := by
  simp only [HasBare, ← Embedding.behind_eq_under]

/-- A retained character has no class if and only if the text has a bare one. -/
theorem unassigned_mem_placesOf_iff :
    .unassigned ∈ ((placesOf (t.map Unicode.bidiClass)).filterMap id).map Cell.cls ↔ HasBare t := by
  rw [placesOf, unassigned_mem_places_iff]
  constructor
  · rintro ⟨before, rest, heq, hnone⟩
    obtain ⟨before, tail, rfl, rfl, htail⟩ := List.map_eq_append_iff.mp heq
    obtain ⟨c, rest, rfl, hc, rfl⟩ := List.map_eq_cons_iff.mp htail
    exact ⟨before, c, rest, rfl, hc, hnone⟩
  · rintro ⟨before, c, rest, rfl, hc, hnone⟩
    refine ⟨before.map Unicode.bidiClass, rest.map Unicode.bidiClass, ?_, hnone⟩
    rw [List.map_append, List.map_cons, hc]

/-- Implied levels of a text stop at a bare character, and never at another. -/
theorem imply_settled_text :
    (HasBare t → (imply (settled (t.map Unicode.bidiClass))).2 = some .unassigned) ∧
      (¬ HasBare t → (imply (settled (t.map Unicode.bidiClass))).2 = none) := by
  rw [imply_settled_stops (places_retained _ _ _)]
  constructor
  · intro h
    exact if_pos (unassigned_mem_placesOf_iff.mpr h)
  · intro h
    exact if_neg fun hmem => h (unassigned_mem_placesOf_iff.mp hmem)

namespace Context

variable (ctx : Context)

theorem analyse_of_hasBare (h : HasBare t) :
    (ctx.analyse t none).2 = .error (.failed (.notAllowed .unassigned)) := by
  rw [analyse_eq_match, resolveText, levels_resolve, imply_settled_text.1 h]

theorem exists_analyse_of_not_hasBare (h : ¬ HasBare t) :
    ∃ logical, (ctx.analyse t none).2 = .ok logical := by
  rw [analyse_eq_match, resolveText, levels_resolve, imply_settled_text.2 h]
  exact ⟨_, rfl⟩

end Context

end Bidi

/-- Without a fault an analysis fails if and only if the text has a character without a class where
no override is in effect, and what it names is the missing class. A line is degraded in exactly
this case. -/
theorem analyse_fails_iff (ctx : Context) (t : Text) :
    ((ctx.analyse t none).2 = .error (.failed (.notAllowed .unassigned)) ↔ Bidi.HasBare t) ∧
    ((∃ logical, (ctx.analyse t none).2 = .ok logical) ↔ ¬ Bidi.HasBare t) ∧
    ∀ (lookup : Script.Lookup) (source : Source), source.checked = .ok t →
      ∃ line, (Line.divide lookup ctx source none).2 = .ok line ∧
        (line.isDegraded = true ↔ Bidi.HasBare t) := by
  by_cases hbare : Bidi.HasBare t
  · have herror := ctx.analyse_of_hasBare hbare
    refine ⟨iff_of_true herror hbare, iff_of_false ?_ (not_not_intro hbare), ?_⟩
    · rintro ⟨logical, hlogical⟩
      rw [herror] at hlogical
      cases hlogical
    · intro lookup source h
      obtain ⟨line, hline, hdegraded⟩ := Line.exists_isDegraded_iff lookup ctx none h
      refine ⟨line, hline, iff_of_true (hdegraded.mpr ⟨_, herror⟩) hbare⟩
  · obtain ⟨logical, hlogical⟩ := ctx.exists_analyse_of_not_hasBare hbare
    refine ⟨iff_of_false ?_ hbare, iff_of_true ⟨logical, hlogical⟩ hbare, ?_⟩
    · intro herror
      rw [hlogical] at herror
      cases herror
    · intro lookup source h
      obtain ⟨line, hline, hdegraded⟩ := Line.exists_isDegraded_iff lookup ctx none h
      refine ⟨line, hline, iff_of_false ?_ hbare⟩
      rw [hdegraded]
      rintro ⟨e, herror⟩
      rw [hlogical] at herror
      cases herror

/-- An unassigned code point after a letter, and one under an override. -/
theorem analyse_unassigned_fails :
    (∃ line, (Line.divide .standard .fresh (.text [0x61, 0x378]) none).2 = .ok line ∧
      line.isDegraded = true) ∧
    (∃ line, (Line.divide .standard .fresh (.text [0x202E, 0x378, 0x202C]) none).2 = .ok line ∧
      line.isDegraded = false) := by
  constructor
  · obtain ⟨-, -, hdivide⟩ := analyse_fails_iff .fresh [0x61, 0x378]
    obtain ⟨line, hline, hdegraded⟩ := hdivide .standard (.text [0x61, 0x378]) (by decide)
    have hclass : Unicode.bidiClass 0x378 = .unassigned := by decide +kernel
    have hoverride : (Embedding.behind [0x61, 0x378] [0x61]).override = none := by decide +kernel
    exact ⟨line, hline, hdegraded.mpr ⟨[0x61], 0x378, [], rfl, hclass, hoverride⟩⟩
  · obtain ⟨-, hok, hdivide⟩ := analyse_fails_iff .fresh [0x202E, 0x378, 0x202C]
    obtain ⟨line, hline, hdegraded⟩ :=
      hdivide .standard (.text [0x202E, 0x378, 0x202C]) (by decide)
    have hanalyse : (Context.fresh.analyse [0x202E, 0x378, 0x202C] none).2 =
        .ok [⟨0, 1, 0⟩, ⟨1, 3, 1⟩] := by decide +kernel
    refine ⟨line, hline, ?_⟩
    rw [← Bool.not_eq_true, hdegraded]
    exact hok.mp ⟨_, hanalyse⟩

end LineRuns
