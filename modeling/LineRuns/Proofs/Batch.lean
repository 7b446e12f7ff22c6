import LineRuns.Batch
import LineRuns.Proofs.Line.History
import LineRuns.Proofs.Line.RunTexts
import LineRuns.Proofs.Text.Lines
import Mathlib.Data.List.Perm.Basic
import Mathlib.Data.List.Sort
import Mathlib.Data.Set.List

/-!
# Batches do not depend on their schedule

Nothing of what a worker did before shows in the record of a line, and putting records in their
places sorts them, in whatever order they come. So a batch has one summary for all schedules: the
records of its lines, each as if the line were alone, by number. No line of a body is refused,
since lines have no line breaks and those that are not blank are not empty.
-/

namespace LineRuns.Batch

open Script (Lookup)

/-! ## Jobs -/

theorem numbered_eq (first : Nat) (lines : List Text) :
    numbered first lines = (lines.zipIdx first).map fun l => ⟨l.2, l.1⟩ := by
  induction lines generalizing first with
  | nil => rfl
  | cons t rest ih => rw [numbered, ih, List.zipIdx_cons, List.map_cons]

/-- The lines that are not blank, with their numbers among all lines. -/
def counted (lines : List Text) : List (Text × Nat) :=
  (lines.zipIdx 1).filter fun l => !l.1.all Text.isBlank

variable {body : Text} {lines : List Text} {job : Job}

theorem jobs_eq (h : Text.Lined body lines) :
    jobs body = (counted lines).map fun l => ⟨l.2, l.1⟩ := by
  have hblank (t : Text) : t.trimmed.isEmpty = t.all Text.isBlank := by
    rw [Bool.eq_iff_iff, List.isEmpty_iff, Text.trimmed_eq_nil_iff, List.all_eq_true]
  simp only [jobs, hblank, h.lines_eq, numbered_eq, List.filter_map]
  rfl

theorem jobs_ne_nil (h : Text.Lined body lines)
    (hline : ∃ line ∈ lines, ∃ c ∈ line, Text.isBlank c = false) : jobs body ≠ [] := by
  obtain ⟨line, hline, c, hc, hblank⟩ := hline
  obtain ⟨i, hi, hget⟩ := List.getElem_of_mem hline
  have hmem : (line, 1 + i) ∈ counted lines := by
    refine List.mem_filter.mpr ⟨?_, ?_⟩
    · exact List.mk_mem_zipIdx_iff_le_and_getElem?_sub.mpr ⟨by omega, by simp [hi, hget]⟩
    · simpa using ⟨c, hc, hblank⟩
  rw [jobs_eq h]
  exact List.ne_nil_of_mem (List.mem_map_of_mem hmem)

/-- Later lines have greater numbers. -/
theorem pairwise_counted (lines : List Text) :
    (counted lines).Pairwise fun a b => a.2 < b.2 := by
  refine List.Pairwise.filter _ (List.pairwise_iff_getElem.mpr ?_)
  intro i j hi hj hij
  simpa using hij

theorem mem_of_mem_counted {t : Text} {n : Nat} (h : (t, n) ∈ counted lines) :
    t ∈ lines ∧ t ≠ [] := by
  obtain ⟨hmem, hblank⟩ := List.mem_filter.mp h
  refine ⟨List.fst_mem_of_mem_zipIdx hmem, ?_⟩
  rintro rfl
  simp at hblank

/-- A line of a body that is not blank can be divided. -/
theorem checked_of_mem_counted (h : Text.Lined body lines) {t : Text} {n : Nat}
    (ht : (t, n) ∈ counted lines) : Source.checked (.text t) = .ok t := by
  obtain ⟨hmem, hne⟩ := mem_of_mem_counted ht
  refine Source.checked_eq_ok_iff.mpr ⟨rfl, hne, fun c hc => ?_⟩
  have hnone := h.endsLine_eq_false hmem c hc
  simp only [Text.endsLine, Text.isBoundary, Bool.or_eq_false_iff, Bool.and_eq_false_iff,
    decide_eq_false_iff_not] at hnone
  omega

/-! ## Records -/

variable {lookup : Lookup} {visual : Bool}

/-- A record as it is of a line that is alone: divided in a context that has done nothing, and put
into visual order if this is wanted. -/
def Record.IsAlone (lookup : Lookup) (visual : Bool) (r : Record) : Prop :=
  ∃ line, (Line.divide lookup .fresh (.text r.line.text) none).2 = .ok line ∧
    r.line = if visual then line.reordered else line

/-- What a worker did before does not show in the record of a line. -/
theorem record_snd (lookup : Lookup) (ctx : Bidi.Context) (visual : Bool) (job : Job) :
    (record lookup ctx visual job).2 = (record lookup .fresh visual job).2 := by
  have hdivide := outcome_perform ctx (.divide lookup (.text job.text) none)
  simp only [LineRuns.perform, Outcome.divided.injEq] at hdivide
  simp only [record, hdivide]

theorem exists_record (lookup : Lookup) (visual : Bool)
    (h : Source.checked (.text job.text) = .ok job.text) :
    ∃ r, (record lookup .fresh visual job).2 = .ok r ∧ r.number = job.number ∧
      r.line.text = job.text ∧ r.IsAlone lookup visual := by
  obtain ⟨line, hline, htext, -⟩ := Line.exists_reads lookup .fresh none h
  have htext' : (if visual then line.reordered else line).text = job.text := by
    split <;> exact htext
  refine ⟨⟨job.number, if visual then line.reordered else line⟩, ?_, rfl, htext', line, ?_, rfl⟩
  · simp only [record, hline]
    rfl
  · rw [htext', hline]

/-! ## Outcomes -/

/-- The outcome of a line that was divided. -/
def Outcome.of (r : Record) : Outcome :=
  ⟨r.number, .ok r⟩

theorem Outcome.of_injective : Function.Injective Outcome.of := by
  intro r s h
  exact Except.ok.inj (Outcome.mk.inj h).2

/-- What workers make of lines is what is made of each line in a context that has done nothing. -/
theorem perform_eq (lookup : Lookup) (visual : Bool) (worker : Nat → Nat)
    (contexts : Nat → Bidi.Context) (work : List Job) :
    perform lookup visual worker contexts work =
      work.map fun job => ⟨job.number, (record lookup .fresh visual job).2⟩ := by
  -- whatever contexts the lines before have left
  induction work generalizing contexts with
  | nil => rfl
  | cons job rest ih =>
    have hrecord := record_snd lookup (contexts (worker job.number)) visual job
    simp only [perform, List.map_cons, hrecord, ih]

/-- All lines of a body have records, for whatever workers and contexts. -/
theorem exists_records (lookup : Lookup) (visual : Bool) (h : Text.Lined body lines) :
    ∃ records : List Record,
      (∀ worker contexts,
        perform lookup visual worker contexts (jobs body) = records.map Outcome.of) ∧
      records.map (fun r => (r.line.text, r.number)) = counted lines ∧
      ∀ r ∈ records, r.IsAlone lookup visual := by
  have hjobs : ∀ job ∈ jobs body, ∃ r, (record lookup .fresh visual job).2 = .ok r ∧
      r.number = job.number ∧ r.line.text = job.text ∧ r.IsAlone lookup visual := by
    intro job hjob
    rw [jobs_eq h] at hjob
    obtain ⟨l, hl, rfl⟩ := List.mem_map.mp hjob
    exact exists_record lookup visual (checked_of_mem_counted h hl)
  have : Nonempty Record := ⟨⟨0, Line.ofText []⟩⟩
  choose! f hf using hjobs
  refine ⟨(jobs body).map f, fun worker contexts => ?_, ?_, ?_⟩
  · rw [perform_eq, List.map_map]
    refine List.map_congr_left fun job hjob => ?_
    obtain ⟨hrecord, hnumber, -⟩ := hf job hjob
    rw [hrecord, ← hnumber]
    rfl
  · rw [List.map_map]
    have hlines : counted lines = (jobs body).map fun job => (job.text, job.number) := by
      rw [jobs_eq h, List.map_map]
      exact (List.map_id _).symm
    rw [hlines]
    refine List.map_congr_left fun job hjob => ?_
    obtain ⟨-, hnumber, htext, -⟩ := hf job hjob
    exact Prod.ext htext hnumber
  · intro r hr
    obtain ⟨job, hjob, rfl⟩ := List.mem_map.mp hr
    exact (hf job hjob).2.2.2

/-! ## Records in their places -/

/-- The order of records by line. -/
abbrev Record.Before : Record → Record → Prop :=
  Order.Preimage Record.number (· ≤ ·)

theorem insert_eq (r : Record) (records : List Record) :
    insert r records = records.orderedInsert Record.Before r := by
  induction records with
  | nil => rfl
  | cons first rest ih => rw [insert, ih, List.orderedInsert_cons]; rfl

/-- Records with numbers of their own come out in their places, in whatever order they come. -/
theorem foldl_insert_eq {arrived records : List Record} (h : arrived.Perm records)
    (hnumbers : records.Pairwise fun a b => a.number < b.number) :
    arrived.foldl (fun sofar r => insert r sofar) [] = records := by
  have hsort : arrived.foldl (fun sofar r => insert r sofar) [] =
      arrived.reverse.insertionSort Record.Before := by
    rw [List.foldl_eq_foldr_reverse]
    simp only [insert_eq]
    rfl
  have hperm : (arrived.reverse.insertionSort Record.Before).Perm records :=
    ((List.perm_insertionSort _ _).trans (List.reverse_perm _)).trans h
  rw [hsort]
  refine hperm.eq_of_pairwise (fun a b ha hb hab hba => ?_) (List.pairwise_insertionSort _ _)
    (hnumbers.imp fun hlt => hlt.le)
  -- two records of one number are one
  have hnodup : (records.map Record.number).Nodup :=
    List.pairwise_map.mpr (hnumbers.imp fun hlt => hlt.ne)
  exact List.inj_on_of_nodup_map hnodup (hperm.mem_iff.mp ha) hb (le_antisymm hab hba)

/-- Outcomes with records count the degraded ones and none as refused. -/
theorem gather_map_of (goOn : Bool) (sofar : Summary) (arrived : List Record) :
    gather goOn sofar (arrived.map Outcome.of) =
      .ok ⟨arrived.foldl (fun sofar r => insert r sofar) sofar.records,
        sofar.degraded + arrived.countP (fun r => r.line.isDegraded), sofar.refused⟩ := by
  induction arrived generalizing sofar with
  | nil => rfl
  | cons r rest ih =>
    rw [List.map_cons, gather]
    simp only [Outcome.of, ih]
    rw [List.foldl_cons, List.countP_cons, Nat.add_assoc, Nat.add_comm (List.countP _ _)]

/-! ## Summaries -/

/-- A summary of the lines of a body that leaves nothing out: a record for each line that is not
blank, by number, as if the line were alone; the degraded ones are counted, and none is refused. -/
structure Complete (lookup : Lookup) (visual : Bool) (lines : List Text) (summary : Summary) :
    Prop where
  lines_eq : summary.records.map (fun r => (r.line.text, r.number)) = counted lines
  increasing : summary.records.Pairwise fun r s => r.number < s.number
  unbroken : ∀ r ∈ summary.records, ∀ c ∈ r.line.text, Text.endsLine c = false
  alone : ∀ r ∈ summary.records, r.IsAlone lookup visual
  degraded_eq : summary.degraded = summary.records.countP fun r => r.line.isDegraded
  refused_eq : summary.refused = 0

theorem mem_counted_of_mem {records : List Record} {r : Record}
    (h : records.map (fun r => (r.line.text, r.number)) = counted lines) (hr : r ∈ records) :
    (r.line.text, r.number) ∈ counted lines :=
  h ▸ List.mem_map_of_mem hr

/-- The order in which outcomes come does not matter. -/
theorem gather_arrival (schedule : Schedule) (goOn : Bool) {records : List Record}
    (hnumbers : records.Pairwise fun r s => r.number < s.number) :
    gather goOn ⟨[], 0, 0⟩ (schedule.arrival (records.map Outcome.of)) =
      .ok ⟨records, records.countP (fun r => r.line.isDegraded), 0⟩ := by
  have hperm := schedule.arrival_perm (records.map Outcome.of)
  have hrange : schedule.arrival (records.map Outcome.of) ∈ Set.range (List.map Outcome.of) := by
    rw [Set.range_list_map]
    intro o ho
    obtain ⟨r, -, rfl⟩ := List.mem_map.mp (hperm.mem_iff.mp ho)
    exact Set.mem_range_self r
  obtain ⟨arrived, harrived⟩ := hrange
  rw [← harrived] at hperm ⊢
  have harrival := (List.map_perm_map_iff Outcome.of_injective).mp hperm
  rw [gather_map_of, foldl_insert_eq harrival hnumbers, harrival.countP_eq, Nat.zero_add]

/-- A body with a line that is not blank has one complete summary, and every schedule comes to it,
with an outcome for every job that is one of its records. -/
theorem exists_complete (lookup : Lookup) (visual : Bool) (h : Text.Lined body lines)
    (hline : ∃ line ∈ lines, ∃ c ∈ line, Text.isBlank c = false) :
    ∃ summary, Complete lookup visual lines summary ∧ ∀ schedule : Schedule,
      perform lookup visual schedule.worker schedule.contexts (jobs body) =
        summary.records.map Outcome.of ∧
      ∀ goOn, run lookup schedule visual goOn body = .ok summary := by
  obtain ⟨records, hperform, hlines, halone⟩ := exists_records lookup visual h
  have hnumbers := pairwise_counted lines
  rw [← hlines, List.pairwise_map] at hnumbers
  refine ⟨⟨records, records.countP fun r => r.line.isDegraded, 0⟩, ⟨hlines, hnumbers,
    fun r hr => h.endsLine_eq_false (mem_of_mem_counted (mem_counted_of_mem hlines hr)).1, halone,
    rfl, rfl⟩,
    fun schedule => ⟨hperform _ _, fun goOn => ?_⟩⟩
  have hjobs := jobs_ne_nil h hline
  rw [run]
  split
  · rename_i hnone
    exact absurd hnone hjobs
  · rw [hperform, gather_arrival schedule goOn hnumbers]

end LineRuns.Batch
