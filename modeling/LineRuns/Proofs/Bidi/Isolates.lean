import LineRuns.Proofs.Bidi.LogicalRun
import Mathlib.Data.List.Forall2

/-!
# Isolate controls are neutrals

The base level is found among the classes of a text as they are, and all else among its classes
with isolate controls made ordinary neutrals. The two views agree: an isolate control is no letter,
so the base level passes over it as it does over a neutral. What a resolution comes to is therefore
a matter of the second view alone (`resolve_map_withoutIsolates`), and texts that are alike in it
are analysed alike, whatever their characters are and whatever contexts went through before.
-/

namespace LineRuns.Bidi

open Unicode (BidiClass bidiClass)

variable {t t' : Text} {fault : Option Text}

/-! ## Classes -/

@[simp] theorem withoutIsolates_withoutIsolates (cls : BidiClass) :
    withoutIsolates (withoutIsolates cls) = withoutIsolates cls := by
  cases cls <;> rfl

/-- The base level passes over isolate controls and neutrals alike. -/
theorem baseLevel_map_withoutIsolates (raw : List BidiClass) :
    baseLevel (raw.map withoutIsolates) = baseLevel raw := by
  induction raw with
  | nil => rfl
  | cons cls rest ih =>
    cases cls with
    | L | R | AL => rfl
    | _ => exact ih

theorem placesOf_map_withoutIsolates (raw : List BidiClass) :
    placesOf (raw.map withoutIsolates) = placesOf raw := by
  have htwice : (raw.map withoutIsolates).map withoutIsolates = raw.map withoutIsolates := by
    rw [List.map_map]
    exact List.map_congr_left fun cls _ => withoutIsolates_withoutIsolates cls
  rw [placesOf, placesOf, baseLevel_map_withoutIsolates, htwice]

/-- A resolution sees isolate controls as neutrals only. -/
theorem resolve_map_withoutIsolates (raw : List BidiClass) (fault : Option Text) :
    resolve (raw.map withoutIsolates) fault = resolve raw fault := by
  simp only [resolve, settled, stretchesOf, placesOf_map_withoutIsolates,
    baseLevel_map_withoutIsolates]

/-! ## Texts -/

/-- Texts of one length whose characters have the same class place by place, where isolate controls
count as neutrals. -/
def AlikeButIsolates (t t' : Text) : Prop :=
  List.Forall₂ (fun c d => withoutIsolates (bidiClass c) = withoutIsolates (bidiClass d)) t t'

instance (t t' : Text) : Decidable (AlikeButIsolates t t') :=
  inferInstanceAs (Decidable (List.Forall₂ _ t t'))

/-- The classes of isolate controls. -/
def isIsolate : BidiClass → Bool
  | .LRI | .RLI | .FSI | .PDI => true
  | _ => false

/-- A text, and the same text with any neutrals of class ON in the place of its isolate controls. -/
def IsolatesReplaced (t t' : Text) : Prop :=
  List.Forall₂ (fun c d => if isIsolate (bidiClass c) then bidiClass d = .ON else d = c) t t'

instance (t t' : Text) : Decidable (IsolatesReplaced t t') :=
  inferInstanceAs (Decidable (List.Forall₂ _ t t'))

theorem IsolatesReplaced.alikeButIsolates (h : IsolatesReplaced t t') : AlikeButIsolates t t' := by
  refine h.imp fun c d hcd => ?_
  split at hcd
  · rename_i hisolate
    rw [hcd]
    revert hisolate
    cases bidiClass c with
    | LRI | RLI | FSI | PDI => exact fun _ => rfl
    | _ => exact fun hisolate => absurd hisolate Bool.false_ne_true
  · rw [hcd]

theorem AlikeButIsolates.resolveText_eq (h : AlikeButIsolates t t') :
    resolveText t fault = resolveText t' fault := by
  have hview : (t.map bidiClass).map withoutIsolates = (t'.map bidiClass).map withoutIsolates := by
    rw [List.map_map, List.map_map, ← List.forall₂_eq_eq_eq, List.forall₂_map_left_iff,
      List.forall₂_map_right_iff]
    exact h
  rw [resolveText, resolveText, ← resolve_map_withoutIsolates, hview, resolve_map_withoutIsolates]

/-- Two analyses of texts that are alike but for isolate controls both fail, with the same wording,
or come to the same base level and to the same level at every place, whatever their contexts went
through. So isolate controls can be replaced by neutrals: the base level stays, and so does every
level. -/
theorem analyse_isolates_as_neutrals (ctx ctx' : Context) (fault : Option Text) :
    (∀ t t', AlikeButIsolates t t' →
      (∃ e e', (ctx.analyse t fault).2 = .error e ∧ (ctx'.analyse t' fault).2 = .error e' ∧
        e.message = e'.message) ∨
      ∃ levels, ctx.levels t fault = .ok levels ∧ ctx'.levels t' fault = .ok levels ∧
        (ctx.analyse t fault).1.base = (ctx'.analyse t' fault).1.base) ∧
    ∀ t t', IsolatesReplaced t t' →
      (ctx'.analyse t' fault).1.base = (ctx.analyse t fault).1.base ∧
      ctx'.levels t' fault = ctx.levels t fault := by
  constructor
  · intro t t' h
    have hresolve : resolveText t fault = resolveText t' fault := h.resolveText_eq
    rw [ctx.analyse_eq_match, ctx'.analyse_eq_match, ctx.analyse_eq, ctx'.analyse_eq,
      ctx.levels_eq, ctx'.levels_eq, hresolve]
    cases (resolveText t' fault).levels with
    | error cause => exact .inl ⟨_, _, rfl, rfl, rfl⟩
    | ok levels => exact .inr ⟨levels, rfl, rfl, rfl⟩
  · intro t t' h
    rw [ctx.analyse_eq, ctx'.analyse_eq, ctx.levels_eq, ctx'.levels_eq,
      h.alikeButIsolates.resolveText_eq]
    exact ⟨rfl, rfl⟩

/-- A right-to-left isolate in a left-to-right text. -/
def isolated : Text :=
  [0x61, 0x2067, 0x5E9, 0x31, 0x2069, 0x62]

/-- Such a text has the levels of one with other letters and neutrals in their places, and keeps
its levels when marks of punctuation replace the controls. -/
theorem analyse_isolated_as_neutrals :
    (∃ levels, Context.fresh.levels isolated none = .ok levels ∧
      Context.fresh.levels [0x7A, 0x28, 0x5D0, 0x39, 0x29, 0x1D400] none = .ok levels) ∧
    Context.fresh.levels [0x61, 0x21, 0x5E9, 0x31, 0x3F, 0x62] none =
      Context.fresh.levels isolated none := by
  obtain ⟨halike, hreplaced⟩ := analyse_isolates_as_neutrals .fresh .fresh none
  constructor
  · have hclasses : AlikeButIsolates isolated [0x7A, 0x28, 0x5D0, 0x39, 0x29, 0x1D400] := by
      decide +kernel
    rcases halike _ _ hclasses with ⟨e, e', herror, -⟩ | ⟨levels, hlevels, hlevels', -⟩
    · have hok : (Context.fresh.analyse isolated none).2 = .ok [⟨0, 2, 0⟩, ⟨2, 3, 1⟩, ⟨3, 4, 2⟩,
          ⟨4, 6, 0⟩] := by decide +kernel
      rw [hok] at herror
      cases herror
    · exact ⟨levels, hlevels, hlevels'⟩
  · have hpunctuation : IsolatesReplaced isolated [0x61, 0x21, 0x5E9, 0x31, 0x3F, 0x62] := by
      decide +kernel
    exact (hreplaced _ _ hpunctuation).2

end LineRuns.Bidi
