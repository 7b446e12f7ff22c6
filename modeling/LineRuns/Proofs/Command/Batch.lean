import LineRuns.Proofs.Batch
import LineRuns.Proofs.Command.Writing

/-!
# The command for a file

What the command for a file gives out is the complete summary of its lines, whatever schedule the
workers have, and all of it can be written: the file is read from octets, so it has no surrogates.
Each line has the runs that the command for a line shows for it.
-/

namespace LineRuns.Command

open Batch (Complete Schedule Record Outcome)
open Document (Value)
open Settings (Path)

/-! ## Records by their entries -/

/-- A value is the record of a run: it has these entries, in this order, and no others. -/
def IsRunRecord (line : Line) (run : Run) (v : Value) : Prop :=
  v = .map [
    (.text "start", .int run.start),
    (.text "length", .int run.length),
    (.text "script", .text run.script),
    (.text "direction", .text run.direction.tag),
    (.text "text", .text (line.runText run))]

/-- A value lists the records of a line's runs, one for each run, in the order of the runs. -/
def ListsRuns (line : Line) (v : Value) : Prop :=
  ∃ records, List.Forall₂ (IsRunRecord line) line.runs records ∧ v = .list records

/-- A value is the record of a line of a batch: it has these entries, in this order, and no
others. -/
def IsLineRecord (r : Record) (v : Value) : Prop :=
  ∃ runs, ListsRuns r.line runs ∧ v = .map [
    (.text "line", .int r.number),
    (.text "text", .text r.line.text),
    (.text "degraded", .bool r.line.isDegraded),
    (.text "runs", runs)]

/-- A value is the record of a line on its own. -/
def IsOwnRecord (line : Line) (visual v : Value) : Prop :=
  ∃ runs, ListsRuns line runs ∧ v = .map [
    (.text "text", .text line.text), (.text "visual", visual), (.text "runs", runs)]

theorem listsRuns_runRecords (line : Line) : ListsRuns line (runRecords line) := by
  refine ⟨_, ?_, rfl⟩
  rw [List.forall₂_map_right_iff, List.forall₂_same]
  exact fun run _ => rfl

theorem isLineRecord_lineRecord (r : Record) : IsLineRecord r (lineRecord r) :=
  ⟨_, listsRuns_runRecords r.line, rfl⟩

/-! ## Reports -/

/-- A report gives out a summary: a record a line, on the output or in the file that was asked for,
all of them such that they can be written, and the counts beside it. The command succeeds, unless
the terminal cannot show the path of the file, which is written all the same. -/
structure Report.Gives (report : Report) (terminal : Terminal) (file : Option Path)
    (summary : Batch.Summary) : Prop where
  records : ∃ values, List.Forall₂ IsLineRecord summary.records values ∧
    report.output = (if file.isSome then [] else values.map .record) ∧
    report.written = file.map (fun path => (path, values)) ∧
    ∀ v ∈ values, Command.canWrite (Command.written v) = true
  lines_mem : .result "Lines" (Text.ofNat summary.records.length) ∈ report.notes
  degraded_mem : .result "Degraded" (Text.ofNat summary.degraded) ∈ report.notes
  failed_mem : .result "Failed" (Text.ofNat summary.refused) ∈ report.notes
  path_mem : ∀ path ∈ file, ∀ shown, terminal.shown? path.text = some shown →
    .result "Output" shown ∈ report.notes
  exit_eq : report.exit = if file.all fun path => (terminal.shown? path.text).isSome then 0 else 1

/-- A report shows a line in one record: its text, whether its runs are in visual order, and its
runs. -/
def Report.ShowsRecord (report : Report) (visual : Value) (line : Line) : Prop :=
  ∃ v, IsOwnRecord line visual v ∧ report = ⟨0, [.record v], [], none⟩

/-- A report shows a line in a table of its runs, with a warning beneath if the line is degraded. In
place of the text of a run stands what the terminal shows of it; if there is a run of which it
cannot show the text, it shows nothing. -/
structure Report.ShowsTable (report : Report) (terminal : Terminal) (visual : Bool) (line : Line) :
    Prop where
  of_shown : ∀ shown : Run → Text,
    (∀ run ∈ line.runs, terminal.shown? (line.runText run) = some (shown run) ∧
      Command.canWrite (shown run) = true) →
    report = ⟨0, tableOf line visual shown :: if line.isDegraded then
      [.line "Warning: bidi analysis failed, output is degraded"] else [], [], none⟩
  of_refused : (∃ run ∈ line.runs, terminal.shown? (line.runText run) = none) →
    report = .brokenOff []

/-- A report of a line shows its runs in their order, in a record or in a table. -/
def Report.Shows (report : Report) (terminal : Terminal) (asRecord : Bool) (visual : Value)
    (line : Line) : Prop :=
  if asRecord then report.ShowsRecord visual line
  else report.ShowsTable terminal visual.isTrue line

theorem showing_map_some (exit : Nat) (items : List Item) :
    Report.showing exit (items.map some) = ⟨exit, items, [], none⟩ := by
  have hall : (items.map some).all Option.isSome = true := by simp
  have hitems : untilUnread (items.map some) = items := by
    simpa [untilUnread] using untilUnread_append items []
  rw [Report.showing, if_pos hall, hitems]

theorem checked_eq {report : Report} (h : ∀ item ∈ report.output, item.canWrite = true) :
    report.checked = report := by
  rw [Report.checked, if_pos (List.all_eq_true.mpr h)]

/-- Whether lines are put into visual order: the setting says so, and logical order is not asked
for. -/
def wantsVisual (settings : Settings) (parsed : Parsed) : Bool :=
  settings.visualOrder.isTrue && !parsed.has "--logical"

theorem isTrue_visualOrder (settings : Settings) (parsed : Parsed) :
    (visualOrder settings (parsed.has "--logical")).isTrue = wantsVisual settings parsed := by
  rw [visualOrder, wantsVisual]
  cases h : settings.visualOrder.isTrue with
  | true => rfl
  | false => simpa using h

theorem canWrite_visualOrder (settings : Settings) (logical : Bool) :
    canWrite (written (visualOrder settings logical)) = true := by
  rw [visualOrder]
  split
  · exact canWrite_written_bool _
  · rename_i h
    exact canWrite_written_of_isTrue (Bool.eq_false_iff.mpr h)

/-! ## Lines of a file -/

variable {octets : List UInt8} {body : Text} {lines : List Text} {visual : Bool}
  {summary : Batch.Summary} {r : Record}

/-- The records of a file that was read can be written. -/
theorem writable_of_mem (hbody : Text.ofOctets octets = .ok body) (hlines : Text.Lined body lines)
    (h : Complete .standard visual lines summary) (hr : r ∈ summary.records) :
    Writable r.line := by
  have hmem := Batch.mem_counted_of_mem h.lines_eq hr
  have htext : canWrite r.line.text = true :=
    canWrite_of_subset (hlines.subset (Batch.mem_of_mem_counted hmem).1)
      (canWrite_iff.mpr (Text.not_isSurrogate_of_ofOctets hbody))
  obtain ⟨line, hline, heq⟩ := h.alone r hr
  obtain ⟨divided, hdivided, hsame, hreads⟩ := Line.exists_reads .standard .fresh none
    (Batch.checked_of_mem_counted hlines hmem)
  obtain rfl := Except.ok.inj (hline.symm.trans hdivided)
  have hwritable := writable_of_reads hreads (hsame ▸ htext)
  rw [heq]
  split
  · exact hwritable.reordered
  · exact hwritable

/-- The runs of a file that was read have scripts with names. -/
theorem scripts_of_mem (hlines : Text.Lined body lines)
    (h : Complete .standard visual lines summary) (hr : r ∈ summary.records) :
    ∀ run ∈ r.line.runs, run.script ∈ Unicode.namedScripts := by
  obtain ⟨line, hline, heq⟩ := h.alone r hr
  have hnamed := Line.script_mem_namedScripts .standard .fresh none
    (Batch.checked_of_mem_counted hlines (Batch.mem_counted_of_mem h.lines_eq hr)) hline
  intro run hrun
  rw [heq] at hrun
  split at hrun
  · exact hnamed run (mem_runs_reordered.mp hrun)
  · exact hnamed run hrun

/-! ## What the commands show -/

variable {world : World}

/-- A report of a table is as far as the terminal shows the table. -/
theorem showsTable_showing {line : Line} (h : world.terminal.ShowsPlain)
    (hscripts : ∀ run ∈ line.runs, run.script ∈ Unicode.namedScripts) (visual : Bool) :
    (Report.showing 0 (if line.isDegraded then
        [runTable world.terminal line visual, degradedWarning world.terminal]
      else [runTable world.terminal line visual])).checked.ShowsTable
        world.terminal visual line := by
  have hwarning : degradedWarning world.terminal =
      some (.line "Warning: bidi analysis failed, output is degraded") := by
    rw [degradedWarning, Terminal.line?, h _ (by decide)]
    rfl
  constructor
  · intro shown hshown
    have htable := runTable_eq_some h hscripts (fun run hrun => (hshown run hrun).1) visual
    have hwrite := canWrite_tableOf (fun run hrun => (hshown run hrun).2) visual
    have hitems : (if line.isDegraded then [runTable world.terminal line visual,
          degradedWarning world.terminal] else [runTable world.terminal line visual]) =
        (tableOf line visual shown :: if line.isDegraded then
          [.line "Warning: bidi analysis failed, output is degraded"] else []).map some := by
      rw [htable, hwarning]
      split <;> rfl
    rw [hitems, showing_map_some]
    refine checked_eq (List.forall_mem_cons.mpr ⟨hwrite, ?_⟩)
    split
    · simp [Item.canWrite]
    · simp
  · intro hrefused
    rw [runTable_eq_none hrefused visual]
    cases line.isDegraded <;> rfl

/-- The command for a line shows a line as it is alone. -/
theorem shows_itemize (hterminal : world.terminal.ShowsPlain) (settings : Settings) (p : Parsed)
    (h : r.IsAlone .standard (visualOrder settings (p.has "--logical")).isTrue)
    (hwritable : Writable r.line)
    (hscripts : ∀ run ∈ r.line.runs, run.script ∈ Unicode.namedScripts) :
    (itemize world settings p r.line.text).checked.Shows world.terminal (p.has "--json")
      (visualOrder settings (p.has "--logical")) r.line := by
  obtain ⟨line, hline, heq⟩ := h
  rw [itemize, hline]
  simp only [← heq, Report.Shows]
  split
  · have hrecord : canWrite (written (entries [("text", .text r.line.text),
        ("visual", visualOrder settings (p.has "--logical")), ("runs", runRecords r.line)])) =
          true := by
      refine canWrite_written_entries fun e he => ?_
      simp only [List.mem_cons, List.not_mem_nil, or_false] at he
      obtain rfl | rfl | rfl := he
      · exact canWrite_written_text hwritable.text
      · exact canWrite_visualOrder settings _
      · exact hwritable.canWrite_runRecords
    refine ⟨_, ⟨_, listsRuns_runRecords r.line, rfl⟩, ?_⟩
    exact checked_eq (by simpa [Item.canWrite] using hrecord)
  · exact showsTable_showing hterminal hscripts _

/-- Notes are no part of the output, and all but the last are always shown. -/
theorem gives_noting {terminal : Terminal} (h : terminal.ShowsPlain) {file : Option Path}
    {report : Report} (hexit : report.exit = 0)
    (hrecords : ∃ values, List.Forall₂ IsLineRecord summary.records values ∧
      report.output = (if file.isSome then [] else values.map .record) ∧
      report.written = file.map (fun path => (path, values)) ∧
      ∀ v ∈ values, canWrite (written v) = true) :
    (report.noting (batchNotes terminal file summary)).Gives terminal file summary := by
  have hnotes : (report.noting (batchNotes terminal file summary)).notes = counts summary ++
      untilUnread (file.map fun path => terminal.result? "Output" path.text).toList := by
    show untilUnread (batchNotes terminal file summary) = _
    rw [batchNotes_eq h, untilUnread_append]
  have hall : (batchNotes terminal file summary).all Option.isSome =
      file.all fun path => (terminal.shown? path.text).isSome := by
    rw [batchNotes_eq h]
    cases file <;> simp [Terminal.result?]
  constructor
  case records => exact hrecords
  case lines_mem => simp [hnotes, counts]
  case degraded_mem => simp [hnotes, counts]
  case failed_mem => simp [hnotes, counts]
  case path_mem =>
    intro path hpath shown hshown
    obtain rfl := Option.mem_def.mp hpath
    simp [hnotes, Terminal.result?, hshown, untilUnread]
  case exit_eq => simp only [Report.noting, hall, hexit]

/-- A summary whose lines can be written is given out, unless a file was asked for that cannot. -/
theorem gives_batchReport (hterminal : world.terminal.ShowsPlain) {file : Option Path}
    (hfile : ∀ path ∈ file, world.tree.canWrite path = true)
    (hwritable : ∀ r ∈ summary.records, Writable r.line) :
    (batchReport world file summary).checked.Gives world.terminal file summary := by
  have hrecords : ∀ v ∈ summary.records.map lineRecord, canWrite (written v) = true := by
    simpa using fun r hr => canWrite_lineRecord (hwritable r hr)
  have hlines : List.Forall₂ IsLineRecord summary.records (summary.records.map lineRecord) := by
    rw [List.forall₂_map_right_iff, List.forall₂_same]
    exact fun r _ => isLineRecord_lineRecord r
  cases file with
  | none =>
    rw [batchReport, checked_eq]
    · exact gives_noting hterminal rfl ⟨_, hlines, rfl, rfl, hrecords⟩
    · simpa [Report.noting, Item.canWrite] using hrecords
  | some path =>
    simp only [batchReport, if_pos (hfile path rfl)]
    rw [checked_eq (by simp [Report.noting])]
    exact gives_noting hterminal rfl ⟨_, hlines, rfl, rfl, hrecords⟩

/-- For every file of text with a line that is not blank and every count of workers, the command
for a file succeeds. It has one record for each line that is not blank, in the order of the lines,
which is the record of this line alone, and counts the degraded ones; no outcome of a worker is an
error. None of this depends on the schedule: which worker takes which line, what it did before, and
in which order lines are done. The command for a line shows the same runs for each of them. On the
terminal depend only the path of a file, behind the counts, and the texts of runs in a table. -/
theorem batch_gives_lines {settings : Settings} {parsed : Parsed} {input : Text}
    (hterminal : world.terminal.ShowsPlain)
    (hjobs : 1 ≤ ((parsed.value? "--jobs").bind Number.readInt?).getD settings.jobs)
    (hread : world.tree.readPath? (Path.ofText input) = some octets)
    (hbody : Text.ofOctets octets = .ok body) (hlines : Text.Lined body lines)
    (hline : ∃ line ∈ lines, ∃ c ∈ line, Text.isBlank c = false) :
    ∃ summary, Complete .standard (wantsVisual settings parsed) lines summary ∧
      (∀ schedule : Schedule,
        Batch.perform .standard (wantsVisual settings parsed) schedule.worker schedule.contexts
          (Batch.jobs body) = summary.records.map Outcome.of ∧
        ∀ goOn, Batch.run .standard schedule (wantsVisual settings parsed) goOn body =
          .ok summary) ∧
      ((∀ path ∈ (parsed.value? "--output").map Path.ofText, world.tree.canWrite path = true) →
        (batch world settings parsed input).checked.Gives world.terminal
          ((parsed.value? "--output").map Path.ofText) summary) ∧
      ∀ r ∈ summary.records, ∀ p : Parsed, p.has "--logical" = parsed.has "--logical" →
        (itemize world settings p r.line.text).checked.Shows world.terminal (p.has "--json")
          (visualOrder settings (p.has "--logical")) r.line := by
  obtain ⟨summary, hcomplete, hrun⟩ :=
    Batch.exists_complete .standard (wantsVisual settings parsed) hlines hline
  have hwritable := fun r hr => writable_of_mem (r := r) hbody hlines hcomplete hr
  refine ⟨summary, hcomplete, hrun, fun hfile => ?_, fun r hr p hp => ?_⟩
  · have hbatch : batch world settings parsed input =
        batchReport world ((parsed.value? "--output").map Path.ofText) summary := by
      simp only [batch, if_neg (Int.not_lt.mpr hjobs), hread, Option.map_some, hbody,
        isTrue_visualOrder, (hrun .single).2]
    rw [hbatch]
    exact gives_batchReport hterminal hfile hwritable
  · refine shows_itemize hterminal settings p ?_ (hwritable r hr)
      (scripts_of_mem hlines hcomplete hr)
    rw [hp, isTrue_visualOrder]
    exact hcomplete.alone r hr

/-- A terminal that can read no bracket, and shows every text without one as it is. -/
def bracketless : Terminal :=
  ⟨fun t => if t.any (fun c => c.val = 0x5B || c.val = 0x5D) then none else some t⟩

theorem bracketless_showsPlain : bracketless.ShowsPlain := by
  intro t ht
  refine if_neg ?_
  rw [Bool.not_eq_true, List.any_eq_false]
  intro c hc
  have hplain := ht c hc
  simp only [mayMark, Bool.or_eq_false_iff, Bool.and_eq_false_iff, decide_eq_false_iff_not]
    at hplain
  simp only [Bool.or_eq_true, decide_eq_true_eq]
  omega

/-- A file `in` of four lines with three kinds of ends, of which the second line is blank. -/
def lettersWorld : World where
  tree := ⟨[(Path.ofText "in", [0x61, 0x0D, 0x0A, 0x20, 0x0A, 0x62, 0xC2, 0x85, 0xD7, 0x90])],
    [Path.ofText "d["]⟩
  home := Path.ofText "/home"
  settingsPath := Path.ofText "/home/settings"
  environment := none
  fonts := []
  terminal := bracketless

/-- Its lines are shown under the numbers one, three and four. If they go to a file whose path has a
bracket in it, they are all there, but the command breaks off with the path. -/
theorem batch_gives_lines_letters :
    ∃ summary : Batch.Summary, summary.records.map (fun r => (r.line.text, r.number)) =
        [([0x61], 1), ([0x62], 3), ([0x5D0], 4)] ∧
      (batch lettersWorld Settings.defaults ⟨[], ["in"]⟩ "in").checked.Gives bracketless none
        summary ∧
      (∀ r ∈ summary.records,
        (itemize lettersWorld Settings.defaults ⟨[], []⟩ r.line.text).checked.Shows bracketless
          false (.bool true) r.line) ∧
      ∃ fileSummary : Batch.Summary,
        fileSummary.records.map (fun r => (r.line.text, r.number)) =
          [([0x61], 1), ([0x62], 3), ([0x5D0], 4)] ∧
        (batch lettersWorld Settings.defaults ⟨[("--output", "d[/x]")], ["in"]⟩ "in").checked.Gives
          bracketless (some (Path.ofText "d[/x]")) fileSummary ∧
        (batch lettersWorld Settings.defaults ⟨[("--output", "d[/x]")], ["in"]⟩
          "in").checked.exit = 1 := by
  have hlines : Text.Lined [0x61, 0x0D, 0x0A, 0x20, 0x0A, 0x62, 0x85, 0x5D0]
      [[0x61], [0x20], [0x62], [0x5D0]] := Text.lined_iff.mpr (by decide)
  have hnumbers : Batch.counted [[0x61], [0x20], [0x62], [0x5D0]] =
      [([0x61], 1), ([0x62], 3), ([0x5D0], 4)] := by decide
  have hjobs : 1 ≤ (((⟨[], ["in"]⟩ : Parsed).value? "--jobs").bind Number.readInt?).getD
      Settings.defaults.jobs := by decide
  have hread : lettersWorld.tree.readPath? (Path.ofText "in") =
      some [0x61, 0x0D, 0x0A, 0x20, 0x0A, 0x62, 0xC2, 0x85, 0xD7, 0x90] := by decide
  have hbody : Text.ofOctets [0x61, 0x0D, 0x0A, 0x20, 0x0A, 0x62, 0xC2, 0x85, 0xD7, 0x90] =
      .ok [0x61, 0x0D, 0x0A, 0x20, 0x0A, 0x62, 0x85, 0x5D0] := by rfl
  have hline : ∃ line ∈ ([[0x61], [0x20], [0x62], [0x5D0]] : List Text),
      ∃ c ∈ line, Text.isBlank c = false := ⟨[0x61], by decide, 0x61, by decide, by decide⟩
  obtain ⟨summary, hcomplete, -, hgives, hshows⟩ := batch_gives_lines bracketless_showsPlain hjobs
    hread hbody hlines hline
  have hfileJobs : 1 ≤ (((⟨[("--output", "d[/x]")], ["in"]⟩ : Parsed).value? "--jobs").bind
      Number.readInt?).getD Settings.defaults.jobs := by decide
  obtain ⟨fileSummary, hfileComplete, -, hfileGives, -⟩ := batch_gives_lines
    bracketless_showsPlain hfileJobs hread hbody hlines hline
  have hgiven := hfileGives (by decide)
  refine ⟨summary, hcomplete.lines_eq.trans hnumbers, hgives (by simp [Parsed.value?]),
    fun r hr => hshows r hr ⟨[], []⟩ rfl, fileSummary, hfileComplete.lines_eq.trans hnumbers,
    hgiven, hgiven.exit_eq.trans (by decide)⟩

end LineRuns.Command
