import LineRuns.Proofs.Command.Terminal
import LineRuns.Proofs.Line.RunTexts
import LineRuns.Proofs.Run.VisualOrder
import LineRuns.Proofs.Text.Octets

/-!
# What can be written

A report can be written as far as it has no surrogates. Whatever a command adds to the texts that it
was given has none, and records are written from the texts in them; so the record and the table of a
line can be written if its text can be.
-/

namespace LineRuns

namespace Command

open Document (Value)

/-! ## Texts -/

theorem canWrite_iff {t : Text} : canWrite t = true ↔ ∀ c ∈ t, c.isSurrogate = false := by
  simp [canWrite]

theorem canWrite_of_subset {s t : Text} (h : s ⊆ t) (ht : canWrite t = true) :
    canWrite s = true :=
  canWrite_iff.mpr fun c hc => canWrite_iff.mp ht c (h hc)

@[simp] theorem canWrite_append (s t : Text) :
    canWrite (s ++ t) = (canWrite s && canWrite t) := by
  simp [canWrite]

@[simp] theorem canWrite_map_ofChar (l : List Char) : canWrite (l.map CodePoint.ofChar) = true := by
  simp [canWrite_iff, CodePoint.isSurrogate_ofChar]

@[simp] theorem canWrite_ofString (s : String) : canWrite (Text.ofString s) = true :=
  canWrite_map_ofChar _

@[simp] theorem canWrite_ofNat (n : Nat) : canWrite (Text.ofNat n) = true :=
  canWrite_map_ofChar _

@[simp] theorem canWrite_ofInt (i : Int) : canWrite (Text.ofInt i) = true := by
  cases i <;> simp [Text.ofInt]

@[simp] theorem canWrite_hexDigits (places n : Nat) :
    canWrite (Text.hexDigits places n) = true := by
  induction places generalizing n with
  | zero => rfl
  | succ places ih =>
    rw [Text.hexDigits, canWrite_append, ih]
    exact canWrite_map_ofChar [_]

theorem canWrite_flatMap {t : Text} {f : CodePoint → Text}
    (h : ∀ c ∈ t, canWrite (f c) = true) : canWrite (t.flatMap f) = true := by
  rw [canWrite_iff]
  intro c hc
  obtain ⟨d, hd, hc⟩ := List.mem_flatMap.mp hc
  exact canWrite_iff.mp (h d hd) c hc

theorem canWrite_join {separator : Text} {texts : List Text} (hs : canWrite separator = true)
    (h : ∀ t ∈ texts, canWrite t = true) : canWrite (Text.join separator texts) = true := by
  fun_induction Text.join separator texts with
  | case1 => rfl
  | case2 t => exact h t List.mem_cons_self
  | case3 t rest _ ih =>
    obtain ⟨ht, hrest⟩ := List.forall_mem_cons.mp h
    simp [ht, hs, ih hrest]

/-! ## Records -/

theorem canWrite_inQuotes {t : Text} (h : canWrite t = true) : canWrite (inQuotes t) = true := by
  have hquote : canWrite [0x22] = true := by decide
  rw [inQuotes, canWrite_append, hquote, Bool.and_true, ← List.singleton_append, canWrite_append,
    hquote, Bool.true_and]
  refine canWrite_flatMap fun c hc => ?_
  have hbare : c.isSurrogate = false := canWrite_iff.mp h c hc
  -- an escape has the code point itself, or none of the text
  split_ifs
  · exact canWrite_iff.mpr (List.forall_mem_cons.mpr ⟨by decide, by simpa using hbare⟩)
  · exact canWrite_ofString _
  · exact canWrite_ofString _
  · exact canWrite_ofString _
  · exact canWrite_ofString _
  · exact canWrite_ofString _
  · rw [canWrite_append, canWrite_ofString, canWrite_hexDigits, Bool.and_self]
  · exact canWrite_iff.mpr (by simpa using hbare)

/-! ## Written values -/

theorem canWrite_written_text {t : Text} (h : canWrite t = true) :
    canWrite (written (.text t)) = true := by
  rw [written]
  exact canWrite_inQuotes h

@[simp] theorem canWrite_written_string (s : String) :
    canWrite (written (.text (Text.ofString s))) = true :=
  canWrite_written_text (canWrite_ofString s)

@[simp] theorem canWrite_written_int (i : Int) : canWrite (written (.int i)) = true := by
  rw [written]
  exact canWrite_ofInt i

@[simp] theorem canWrite_written_bool (b : Bool) : canWrite (written (.bool b)) = true := by
  cases b <;> rw [written] <;> exact canWrite_ofString _

theorem writtenItems_eq (items : List Value) : writtenItems items = items.map written := by
  induction items with
  | nil => rw [writtenItems, List.map_nil]
  | cons v rest ih => rw [writtenItems, ih, List.map_cons]

theorem writtenEntries_eq (l : List (Value × Value)) :
    writtenEntries l = l.map fun e => inQuotes e.1.title ++ ": " ++ written e.2 := by
  induction l with
  | nil => rw [writtenEntries, List.map_nil]
  | cons e rest ih => rw [writtenEntries, ih, List.map_cons]

theorem canWrite_written_list {items : List Value}
    (h : ∀ v ∈ items, canWrite (written v) = true) : canWrite (written (.list items)) = true := by
  have hitems : ∀ t ∈ items.map written, canWrite t = true := by simpa using h
  simp [written, writtenItems_eq, canWrite_join (canWrite_ofString ", ") hitems]

theorem canWrite_written_entries {l : List (String × Value)}
    (h : ∀ e ∈ l, canWrite (written e.2) = true) : canWrite (written (entries l)) = true := by
  have hentries : ∀ t ∈ writtenEntries (l.map fun e => (.text e.1, e.2)), canWrite t = true := by
    intro t ht
    rw [writtenEntries_eq, List.map_map] at ht
    obtain ⟨e, he, rfl⟩ := List.mem_map.mp ht
    have hkey := canWrite_inQuotes (canWrite_ofString e.1)
    simp [Value.title, hkey, h e he]
  simp [entries, written, canWrite_join (canWrite_ofString ", ") hentries]

/-- What counts as false can be written. -/
theorem canWrite_written_of_isTrue {v : Value} (h : v.isTrue = false) :
    canWrite (written v) = true := by
  cases v with
  | null => rw [written]; exact canWrite_ofString _
  | bool b => exact canWrite_written_bool b
  | int i => exact canWrite_written_int i
  | double x =>
    rw [Value.isTrue, Bool.not_eq_false', Number.Binary64.isZero] at h
    rw [written]
    cases hparts : x.parts with
    | nan => simp [hparts] at h
    | infinite negative => simp [hparts] at h
    | finite negative significand exponent =>
      obtain rfl : significand = 0 := by simpa [hparts] using h
      simp only [Number.Binary64.shown, hparts, ↓reduceIte, canWrite_append, canWrite_ofString,
        Bool.and_true]
      split
      · exact canWrite_ofString _
      · rfl
  | text t =>
    obtain rfl : t = [] := by simpa [Value.isTrue] using h
    exact canWrite_written_text rfl
  | date d => cases h
  | moment m => cases h
  | list items =>
    obtain rfl : items = [] := by simpa [Value.isTrue] using h
    exact canWrite_written_list (by simp)
  | map l =>
    obtain rfl : l = [] := by simpa [Value.isTrue] using h
    exact canWrite_written_entries (l := []) (by simp)

/-! ## Lines -/

theorem mem_runs_reordered {line : Line} {run : Run} :
    run ∈ line.reordered.runs ↔ run ∈ line.runs := by
  rw [Line.reordered, Run.run_reorder]
  exact (Run.visualOrder_perm line.runs).mem_iff

/-- A line whose text can be written, and the texts of its runs. -/
structure Writable (line : Line) : Prop where
  text : canWrite line.text = true
  runs : ∀ run ∈ line.runs, canWrite (line.runText run) = true

variable {line : Line}

/-- Without surrogates, the texts of runs are from the text of the line. -/
theorem writable_of_reads (h : line.Reads) (ht : canWrite line.text = true) : Writable line := by
  have hpair : ¬ Text.HasPair line.text := by
    rintro ⟨before, c, d, after, heq, hc, -⟩
    have hscalar := canWrite_iff.mp ht c (by simp [heq])
    rw [CodePoint.isSurrogate_of_isLead hc] at hscalar
    cases hscalar
  have htexts := h.texts
  rw [Line.units, Text.decode_units_eq_iff.mpr hpair] at htexts
  refine ⟨ht, fun run hrun => canWrite_of_subset (fun c hc => ?_) ht⟩
  rw [← htexts]
  exact List.mem_flatten_of_mem (List.mem_map_of_mem hrun) hc

namespace Writable

variable (h : Writable line)
include h

theorem reordered : Writable line.reordered :=
  ⟨h.text, fun run hrun => h.runs run (mem_runs_reordered.mp hrun)⟩

theorem canWrite_runRecords : canWrite (written (runRecords line)) = true := by
  refine canWrite_written_list fun v hv => ?_
  obtain ⟨run, hrun, rfl⟩ := List.mem_map.mp hv
  refine canWrite_written_entries fun e he => ?_
  simp only [List.mem_cons, List.not_mem_nil, or_false] at he
  obtain rfl | rfl | rfl | rfl | rfl := he
  · exact canWrite_written_int _
  · exact canWrite_written_int _
  · exact canWrite_written_string _
  · exact canWrite_written_string _
  · exact canWrite_written_text (h.runs run hrun)

end Writable

theorem canWrite_tableOf {shown : Run → Text}
    (h : ∀ run ∈ line.runs, canWrite (shown run) = true) (visual : Bool) :
    (tableOf line visual shown).canWrite = true := by
  have horder : canWrite (if visual then Text.ofString "visual" else Text.ofString "logical") =
      true := by split <;> exact canWrite_ofString _
  simp only [tableOf, Item.canWrite, canWrite_append, canWrite_ofNat, canWrite_ofString, horder,
    List.all_cons, List.all_nil, Bool.and_self, Bool.true_and, List.all_map, List.all_eq_true]
  intro run hrun
  simp [h run hrun]

theorem canWrite_lineRecord {r : Batch.Record} (h : Writable r.line) :
    canWrite (written (lineRecord r)) = true := by
  refine canWrite_written_entries fun e he => ?_
  simp only [List.mem_cons, List.not_mem_nil, or_false] at he
  obtain rfl | rfl | rfl | rfl := he
  · exact canWrite_written_int _
  · exact canWrite_written_text h.text
  · exact canWrite_written_bool _
  · exact h.canWrite_runRecords

end Command

end LineRuns
