import LineRuns.Command.Run
import Mathlib.Data.List.Basic

/-!
# What a terminal shows

One thing is supposed of a terminal: that it shows plain texts as they are, in which nothing could
be one of its marks (`Terminal.ShowsPlain`). Numbers are plain, and so are the names of scripts and
of directions; so in the table of a line's runs only the texts of the runs depend on the terminal.
-/

namespace LineRuns.Command

/-! ## Plain texts -/

/-- Whether a code point may be a mark, or part of one: a control, a colon, a square bracket or a
backslash. -/
def mayMark (c : CodePoint) : Bool :=
  c.val < 0x20 || c.val = 0x3A || (0x5B ≤ c.val && c.val ≤ 0x5D)

/-- A text without anything that may be a mark. -/
def IsPlain (t : Text) : Prop :=
  ∀ c ∈ t, mayMark c = false

instance : DecidablePred IsPlain := fun t =>
  List.decidableBAll (fun c => mayMark c = false) t

/-- A terminal shows plain texts as they are. -/
def Terminal.ShowsPlain (terminal : Terminal) : Prop :=
  ∀ t, IsPlain t → terminal.shown? t = some t

theorem isPlain_append {s t : Text} (hs : IsPlain s) (ht : IsPlain t) : IsPlain (s ++ t) := by
  intro c hc
  rcases List.mem_append.mp hc with hc | hc
  · exact hs c hc
  · exact ht c hc

/-- Digits are no marks. -/
theorem isPlain_ofNat (n : Nat) : IsPlain (Text.ofNat n) := by
  intro c hc
  obtain ⟨d, hd, rfl⟩ := List.mem_map.mp hc
  have hdigit := Nat.isDigit_of_mem_toDigits (by decide) (by decide) hd
  have hrange : 0x30 ≤ (CodePoint.ofChar d).val ∧ (CodePoint.ofChar d).val ≤ 0x39 :=
    Char.isDigit_iff_toNat.mp hdigit
  simp only [mayMark, Bool.or_eq_false_iff, Bool.and_eq_false_iff, decide_eq_false_iff_not]
  omega

theorem isPlain_ofInt (i : Int) : IsPlain (Text.ofInt i) := by
  cases i with
  | ofNat n => exact isPlain_ofNat n
  | negSucc n => exact isPlain_append (by decide) (isPlain_ofNat (n + 1))

theorem isPlain_tag (d : Direction) : IsPlain (Text.ofString d.tag) := by
  cases d <;> decide

theorem isPlain_of_mem_namedScripts {code : String} (h : code ∈ Unicode.namedScripts) :
    IsPlain (Text.ofString code) := by
  have hall : ∀ code ∈ Unicode.namedScripts, IsPlain (Text.ofString code) := by decide +kernel
  exact hall code h

/-! ## Pieces that are shown one by one -/

section Pieces

variable {α β : Type} {f : α → Option β} {g : α → β} {l : List α}

theorem mapM_eq_some_map (h : ∀ a ∈ l, f a = some (g a)) : l.mapM f = some (l.map g) := by
  induction l with
  | nil => rfl
  | cons a rest ih =>
    obtain ⟨ha, hrest⟩ := List.forall_mem_cons.mp h
    rw [List.mapM_cons, ha, ih hrest]
    rfl

theorem mapM_eq_none (h : ∃ a ∈ l, f a = none) : l.mapM f = none := by
  induction l with
  | nil =>
    obtain ⟨a, ha, -⟩ := h
    exact absurd ha List.not_mem_nil
  | cons b rest ih =>
    obtain ⟨a, ha, hnone⟩ := h
    rw [List.mapM_cons]
    rcases List.mem_cons.mp ha with rfl | hrest
    · rw [hnone]
      rfl
    · rw [ih ⟨a, hrest, hnone⟩]
      cases f b <;> rfl

/-- Pieces that are all shown are what is shown of them. -/
theorem untilUnread_append (l : List α) (more : List (Option α)) :
    untilUnread (l.map some ++ more) = l ++ untilUnread more := by
  induction l with
  | nil => rfl
  | cons a rest ih => rw [List.map_cons, List.cons_append, untilUnread, ih, List.cons_append]

end Pieces

/-! ## The table of a line -/

/-- A table of a line's runs with a row for each: where it starts, how long it is, its script, its
direction, and what is shown of its text. -/
def tableOf (line : Line) (visual : Bool) (shown : Run → Text) : Item :=
  .table (Text.ofNat line.runs.length ++ " runs (" ++
      (if visual then "visual" else "logical" : Text) ++ " order)")
    ["Start", "Length", "Script", "Direction", "Text"]
    (line.runs.map fun run =>
      [Text.ofInt run.start, Text.ofInt run.length, run.script, run.direction.tag, shown run])

variable {terminal : Terminal} {line : Line}

/-- A terminal that shows the texts of all runs shows the table of them. -/
theorem runTable_eq_some (h : terminal.ShowsPlain)
    (hscripts : ∀ run ∈ line.runs, run.script ∈ Unicode.namedScripts) {shown : Run → Text}
    (hshown : ∀ run ∈ line.runs, terminal.shown? (line.runText run) = some (shown run))
    (visual : Bool) :
    runTable terminal line visual = some (tableOf line visual shown) := by
  have htitle : IsPlain (Text.ofNat line.runs.length ++ " runs (" ++
      (if visual then "visual" else "logical" : Text) ++ " order)") := by
    have horder : IsPlain (if visual then "visual" else "logical" : Text) := by
      cases visual <;> decide
    have hfront := isPlain_append (isPlain_ofNat line.runs.length)
      (t := Text.ofString " runs (") (by decide)
    exact isPlain_append (isPlain_append hfront horder) (by decide)
  have hrows : (line.runs.map fun run => [Text.ofInt run.start, Text.ofInt run.length, run.script,
      run.direction.tag, line.runText run]).mapM (fun row => row.mapM terminal.shown?) =
        some (line.runs.map fun run => [Text.ofInt run.start, Text.ofInt run.length,
          Text.ofString run.script, Text.ofString run.direction.tag, shown run]) := by
    rw [List.mapM_map]
    refine mapM_eq_some_map fun run hrun => ?_
    simp [h _ (isPlain_ofInt run.start), h _ (isPlain_ofInt run.length),
      h _ (isPlain_of_mem_namedScripts (hscripts run hrun)), h _ (isPlain_tag run.direction),
      hshown run hrun]
  rw [runTable, Terminal.table?, h _ htitle, hrows]
  rfl

/-- A terminal that cannot show the text of a run does not show the table. -/
theorem runTable_eq_none (h : ∃ run ∈ line.runs, terminal.shown? (line.runText run) = none)
    (visual : Bool) :
    runTable terminal line visual = none := by
  obtain ⟨run, hrun, hnone⟩ := h
  have hrow : ([Text.ofInt run.start, Text.ofInt run.length, Text.ofString run.script,
      Text.ofString run.direction.tag, line.runText run] : List Text).mapM terminal.shown? =
        none :=
    mapM_eq_none ⟨_, by simp, hnone⟩
  rw [runTable, Terminal.table?, mapM_eq_none ⟨_, List.mem_map_of_mem hrun, hrow⟩]
  cases terminal.shown? _ <;> rfl

/-! ## The notes of a batch -/

/-- The counts of a batch that is done, as they are noted. -/
def counts (summary : Batch.Summary) : List Note :=
  [.line "Batch complete:", .result "Lines" (Text.ofNat summary.records.length),
    .result "Degraded" (Text.ofNat summary.degraded),
    .result "Failed" (Text.ofNat summary.refused)]

/-- Counts are always shown. Whether all is depends on the path of a file. -/
theorem batchNotes_eq (h : terminal.ShowsPlain) (file : Option Settings.Path)
    (summary : Batch.Summary) :
    batchNotes terminal file summary = (counts summary).map some ++
      (file.map fun path => terminal.result? "Output" path.text).toList := by
  have hcount (name : String) (n : Nat) :
      terminal.result? name (Text.ofNat n) = some (.result name (Text.ofNat n)) := by
    rw [Terminal.result?, h _ (isPlain_ofNat n)]
    rfl
  simp only [batchNotes, hcount]
  rfl

end LineRuns.Command
