import LineRuns.Proofs.Line.Tiling
import LineRuns.Proofs.Text.OctetRoundTrip

/-!
# Lines from texts and from octets

Octets are another way to give a text: those of a text are divided as the text is, and no others
are. What a text is refused for is to be seen in it, for it is empty or has the end of a line in it.
-/

namespace LineRuns

open Bidi (Context)
open Script (Lookup)

theorem isLineBreak_iff {c : CodePoint} : isLineBreak c = true ↔ c = 0x0D ∨ c = 0x0A := by
  simp [isLineBreak, Fin.ext_iff]

namespace Source

variable {t : Text} {octets : List UInt8}

theorem checked_octets (h : Text.octets? t = some octets) :
    checked (.octets octets) = checked (.text t) := by
  have hread := Text.ofOctets_eq_ok_iff.mpr h
  simp only [checked, decoded, hread, Except.mapError]

/-- Octets that no text has are refused for what they are. -/
theorem exists_checked_octets (h : ∀ t, Text.octets? t ≠ some octets) :
    ∃ e, checked (.octets octets) = .error (.notDecoded e) := by
  cases hread : Text.ofOctets octets with
  | ok t => exact absurd (Text.ofOctets_eq_ok_iff.mp hread) (h t)
  | error e =>
    refine ⟨e, ?_⟩
    simp only [checked, decoded, hread, Except.mapError]
    rfl

theorem exists_checked_text_error_iff :
    (∃ e, checked (.text t) = .error e) ↔ t = [] ∨ 0x0D ∈ t ∨ 0x0A ∈ t := by
  have hbreak : t.any isLineBreak = true ↔ 0x0D ∈ t ∨ 0x0A ∈ t := by
    simp only [List.any_eq_true, isLineBreak_iff, and_or_left, exists_or, exists_eq_right]
  rw [← hbreak]
  show (∃ e, (if t.isEmpty then _ else if t.any isLineBreak then _ else _) = _) ↔ _
  by_cases hempty : t = []
  · simp [hempty]
  · by_cases h : t.any isLineBreak = true
    · simp [hempty, h]
    · simp [hempty, h]

end Source

namespace Line

variable (lookup : Lookup) (ctx : Context) (fault : Option Text)

/-- A division depends on its source as far as this is checked. -/
theorem divide_congr {source other : Source} (h : source.checked = other.checked) :
    divide lookup ctx source fault = divide lookup ctx other fault := by
  rw [divide, divide, h]

theorem divide_of_error {source : Source} {e : TextError} (h : source.checked = .error e) :
    divide lookup ctx source fault = (ctx, .error (.text e)) := by
  rw [divide, h]

/-- A source is refused by a division if and only if its check refuses it. -/
theorem exists_divide_text_error_iff {source : Source} :
    (∃ e, (divide lookup ctx source fault).2 = .error (.text e)) ↔
      ∃ e, source.checked = .error e := by
  constructor
  · rintro ⟨e, he⟩
    cases hchecked : source.checked with
    | error e' => exact ⟨e', rfl⟩
    | ok t =>
      obtain ⟨line, hline, -⟩ := exists_isDegraded_iff lookup ctx fault hchecked
      rw [hline] at he
      cases he
  · rintro ⟨e, he⟩
    exact ⟨e, by rw [divide_of_error lookup ctx fault he]⟩

end Line

/-- How octets and texts are divided.

The octets of a text are divided exactly as the text is, errors included; every text without
surrogates has octets, and only such a text. They are those that the standard encoder of strings
writes. All other octets are refused as no text, and the context is not touched. A text, surrogates
or not, is refused if and only if it is empty or has a carriage return or a line feed. -/
theorem Line.divide_octets (lookup : Lookup) (ctx : Context) (fault : Option Text) :
    (∀ t octets, Text.octets? t = some octets →
      divide lookup ctx (.octets octets) fault = divide lookup ctx (.text t) fault) ∧
    (∀ t : Text, (∃ octets, Text.octets? t = some octets) ↔ ∀ c ∈ t, c.isSurrogate = false) ∧
    (∀ s : String, Text.octets? s = some s.toUTF8.data.toList) ∧
    (∀ octets, (∀ t, Text.octets? t ≠ some octets) →
      ∃ e, divide lookup ctx (.octets octets) fault = (ctx, .error (.text (.notDecoded e)))) ∧
    ∀ t, (∃ e, (divide lookup ctx (.text t) fault).2 = .error (.text e)) ↔
      t = [] ∨ 0x0D ∈ t ∨ 0x0A ∈ t := by
  refine ⟨?_, ?_, Text.octets?_ofString, ?_, ?_⟩
  · intro t octets h
    exact divide_congr lookup ctx fault (Source.checked_octets h)
  · intro t
    rw [← Text.octets?_isSome_iff, Option.isSome_iff_exists]
  · intro octets h
    obtain ⟨e, he⟩ := Source.exists_checked_octets h
    exact ⟨e, divide_of_error lookup ctx fault he⟩
  · intro t
    rw [exists_divide_text_error_iff, Source.exists_checked_text_error_iff]

/-- A text with code points of one to four octets. -/
def fourWidths : Text :=
  [0x61, 0x431, 0x20AC, 0x10348]

/-- Octets that are too long for their number, or an encoded surrogate, or beyond the code space,
or that begin or end inside a code point. -/
def noText : List (List UInt8) :=
  [[0xC0, 0xAF], [0xE0, 0x80, 0xAF], [0xED, 0xA0, 0x80], [0xF4, 0x90, 0x80, 0x80], [0x80],
    [0x61, 0xE2, 0x82], [0xE2, 0x28, 0xA1]]

/-- A text with octets of every width, octets that are no text, and a text with a line feed. -/
theorem Line.divide_octets_fourWidths :
    Text.octets? fourWidths = some [0x61, 0xD0, 0xB1, 0xE2, 0x82, 0xAC, 0xF0, 0x90, 0x8D, 0x88] ∧
    divide .standard .fresh
        (.octets [0x61, 0xD0, 0xB1, 0xE2, 0x82, 0xAC, 0xF0, 0x90, 0x8D, 0x88]) none =
      divide .standard .fresh (.text fourWidths) none ∧
    (∀ octets ∈ noText, ∃ e,
      divide .standard .fresh (.octets octets) none = (.fresh, .error (.text (.notDecoded e)))) ∧
    ∃ e, (divide .standard .fresh (.text [0x61, 0x0A, 0x62]) none).2 = .error (.text e) := by
  obtain ⟨hdivide, -, -, hrefuse, htext⟩ := divide_octets .standard .fresh none
  have hwritten : Text.octets? fourWidths =
      some [0x61, 0xD0, 0xB1, 0xE2, 0x82, 0xAC, 0xF0, 0x90, 0x8D, 0x88] := by decide +kernel
  have hnot : ∀ octets ∈ noText, (Text.ofOctets octets).isOk = false := by decide +kernel
  refine ⟨hwritten, hdivide _ _ hwritten, ?_, (htext _).mpr (.inr (.inr (by decide)))⟩
  intro octets hmem
  apply hrefuse
  intro t ht
  have hread := Text.ofOctets_eq_ok_iff.mpr ht
  have hfalse := hnot octets hmem
  rw [hread] at hfalse
  cases hfalse

end LineRuns
