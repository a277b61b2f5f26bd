import BuildScope.Command.Program
import BuildScope.Proofs.Diff.Listing
import BuildScope.Proofs.Diff.ReportForms
import Mathlib.Data.List.Permutation

/-!
# Reports of the Diff Command

Up to the report, the diff command only logs: it loads two snapshots and diffs them, whatever the
limit and the form of the report may be. The report is printed at once, so that reports on the same
two snapshots have the same summary, and list the same deltas from the first one on, more or fewer
of them.

* `Command.Program.Yields`: a program that only logs on the way to its value.
* `Command.diffSnapshots_yields`: diffing two snapshots is such a program.
* `Command.diff_reports_first`: what a diff command prints.
-/

namespace BuildScope.Command

open Files (FileAccess)
open Json (Value)
open Log (Filter Format Level)
open Number (Overflow)

/-! ## Programs that only log -/

namespace Program

variable {α β ε : Type} {program : Program α} {a : α} {b : β}

/-- A program leads to a value, and has done nothing else than to log something. -/
def Yields (program : Program α) (a : α) : Prop :=
  ∀ progress : Progress, ∃ notices,
    program.run.run progress = (.ok a, { progress with notices })

/-- One such program after another is such a program. -/
theorem Yields.bind {next : α → Program β} (h : program.Yields a) (hnext : (next a).Yields b) :
    Yields (program >>= next) b := by
  intro progress
  obtain ⟨notices, hrun⟩ := h progress
  obtain ⟨notices', hrun'⟩ := hnext { progress with notices }
  refine ⟨notices', ?_⟩
  rw [ExceptT.run_bind, StateT.run_bind, hrun]
  exact hrun'

theorem yields_pure (a : α) : Yields (pure a) a :=
  fun progress => ⟨progress.notices, rfl⟩

theorem yields_notify (notice : Notice) : (notify notice).Yields () :=
  fun progress => ⟨progress.notices.push notice, rfl⟩

/-- Logging several things does nothing else. -/
theorem yields_notifyAll (notices : List Notice) : (notifyAll notices).Yields () := by
  induction notices with
  | nil => exact yields_pure ()
  | cons notice notices ih => exact (yields_notify notice).bind ih

/-- A step that succeeds does not end the command. -/
theorem yields_orEnd (ending : ε → Ending) {result : Except ε α} (h : result = .ok a) :
    (orEnd ending result).Yields a := by
  rw [h]
  exact yields_pure a

end Program

open Program

/-! ## The diff -/

variable {files : FileAccess} {path : String} {before after snapshot : Snapshot} {sorted : Bool}
  {diff : Diff}

/-- A snapshot that can be loaded is loaded, and that is logged. -/
theorem loadSnapshot_yields (h : Snapshot.load files path = .ok snapshot) :
    (loadSnapshot files path).Yields snapshot :=
  (yields_notify _).bind <| (yields_orEnd _ h).bind <| (yields_notify _).bind (yields_pure snapshot)

/-- The matching is computed before anything is logged about it, but no other way. -/
theorem diffSnapshots_yields (h : Diff.ofSnapshots before after sorted = .ok diff) :
    (diffSnapshots before after sorted).Yields diff := by
  obtain ⟨matching, hmatching, hdiff⟩ := Except.bind_eq_ok.1 h
  refine (yields_notifyAll _).bind <|
    (yields_orEnd _ (Except.mapError_eq_ok.1 hmatching)).bind ?_
  -- what is logged in between depends on whether the deltas are sorted
  have hrest : Yields (do
      let diff ← orEnd Ending.ofDiffFault (Diff.ofMatching before after sorted matching)
      notify (.diffed diff.deltas.length)
      return diff) diff :=
    (yields_orEnd _ hdiff).bind <| (yields_notify _).bind (yields_pure diff)
  cases sorted with
  | false => exact hrest
  | true => exact (yields_notifyAll _).bind hrest

/-! ## The report -/

/-- The report on a diff has its summary, and as many of its records as the limit allows. -/
theorem ofDiff_eq_ok {summary : DiffSummary} {all : List DeltaRecord}
    (hsummary : diff.summary = .ok summary)
    (hall : diff.deltas.changed.mapM Delta.record = .ok all) (limit : Option Nat) :
    DiffReport.ofDiff diff limit = .ok ⟨summary, all.take (summary.counts.listed limit)⟩ := by
  obtain ⟨-, hcount, -⟩ := Diff.summary_eq_ok hsummary
  have hrecords := Diff.records_eq_atMost (Deltas.of_count hcount).1 hall limit
  rw [Diff.atMost_eq_take hcount hall] at hrecords
  exact Except.bind_eq_ok.2 ⟨_, hrecords, Except.bind_eq_ok.2 ⟨summary, hsummary, rfl⟩⟩

/-- The work of a diff command up to the report. -/
def prepareDiff (files : FileAccess) (request : DiffRequest) : Program Diff := do
  notify (.diffing request.before request.after)
  let before ← loadSnapshot files request.before
  let after ← loadSnapshot files request.after
  diffSnapshots before after request.sorted

/-- The diff command prepares a diff, makes its report and prints that. -/
theorem runDiff_eq (files : FileAccess) (request : DiffRequest) :
    runDiff files request = prepareDiff files request >>= fun diff =>
      orEnd Ending.ofOverflow (DiffReport.ofDiff diff request.limit) >>= fun report =>
        print (request.format.lines report) := by
  simp only [runDiff, prepareDiff, bind_assoc]

/-- Up to the report, the diff command only logs. -/
theorem prepareDiff_yields {request : DiffRequest}
    (hbefore : Snapshot.load files request.before = .ok before)
    (hafter : Snapshot.load files request.after = .ok after)
    (hdiff : Diff.ofSnapshots before after request.sorted = .ok diff) :
    (prepareDiff files request).Yields diff :=
  (yields_notify _).bind <| (loadSnapshot_yields hbefore).bind <|
    (loadSnapshot_yields hafter).bind (diffSnapshots_yields hdiff)

/-- A command whose report can be made prints it, and logs nothing more. -/
theorem run_runDiff (request : DiffRequest) {progress finished : Progress} {report : DiffReport}
    (hrun : (prepareDiff files request).run.run progress = (.ok diff, finished))
    (hreport : DiffReport.ofDiff diff request.limit = .ok report) :
    (runDiff files request).run.run progress = (.ok (),
      { finished with printed := finished.printed ++ (request.format.lines report).toArray }) := by
  rw [runDiff_eq, ExceptT.run_bind, StateT.run_bind, hrun]
  show (orEnd Ending.ofOverflow (DiffReport.ofDiff diff request.limit) >>= _).run.run finished = _
  rw [hreport]
  rfl

/-- What is printed and logged by a diff command that succeeds is what comes out. -/
theorem ofInvocation_diff {system : System} {request : DiffRequest} {finished : Progress}
    (hrun : (runDiff system.files request).run.run {} = (.ok (), finished))
    (logLevel : Option Level) (filter : Filter) :
    Outcome.ofInvocation system ⟨logLevel, .diff request⟩ filter = .ran finished.printed.toList
      ⟨Format.ofSetting system.settings.format,
        (finished.notices.toList.map Notice.event).filter filter.enables⟩ none := by
  rw [Outcome.ofInvocation, run, hrun]

/-- What is printed about the records of a diff tells of its deltas. -/
theorem tell_ofRecords {summary : DiffSummary} {records : List DeltaRecord}
    (hdiff : Diff.ofSnapshots before after sorted = .ok diff)
    (hrecords : diff.deltas.changed.mapM Delta.record = .ok records) :
    (DiffReport.Contents.ofRecords summary records).Tell summary diff.deltas.changed :=
  DiffReport.Contents.tell_ofRecords
    (fun _ hdelta =>
      Diff.isFlat_of_mem hdiff ((Deltas.changed_sublist diff.deltas).subset hdelta))
    (fun _ hdelta => of_decide_eq_true (List.mem_filter.1 hdelta).2) hrecords

/-- Reports about one diff, with any limit and in either form, list the first of the deltas that are
not unchanged. -/
structure ReportsFirst (outcome : ReportFormat → Option Nat → Outcome) (sorted : Bool) (diff : Diff)
    (summary : DiffSummary) (contents : DiffReport.Contents) : Prop where
  /-- The reports tell of the totals, and of each delta that is not unchanged, in the order of the
  diff. -/
  tell : contents.Tell summary diff.deltas.changed
  /-- There are as many of these deltas as the summary says. -/
  length_eq : diff.deltas.changed.length =
    summary.counts.changed + summary.counts.added + summary.counts.removed
  /-- The command succeeds. It prints the same totals for every limit, and tells of as many of the
  deltas as the limit allows. -/
  outcome_eq : ∃ log, ∀ limit,
    outcome .text limit = .ran (contents.text (summary.counts.listed limit)) log none ∧
      ∃ report : Value, outcome .json limit = .ran [report.pretty] log none ∧
        report.get? "summary" = some contents.totals ∧
        report.get? "symbols" = some (.array (contents.items.take (summary.counts.listed limit)))
  /-- With a smaller limit, the beginning is listed of what a greater one or none lists. -/
  prefix_of_le : ∀ small large, small ≤ large →
    diff.deltas.changed.take (summary.counts.listed (some small)) <+:
        diff.deltas.changed.take (summary.counts.listed (some large)) ∧
      diff.deltas.changed.take (summary.counts.listed (some large)) <+:
        diff.deltas.changed.take (summary.counts.listed none)
  /-- In a sorted diff, no delta that is left out has changed more than one that is listed. -/
  not_lt : sorted → ∀ limit,
    ∀ listed ∈ diff.deltas.changed.take (summary.counts.listed limit),
    ∀ omitted ∈ diff.deltas.changed.drop (summary.counts.listed limit),
      ∃ x y, listed.pss = .ok x ∧ omitted.pss = .ok y ∧ ¬x.abs < y.abs

/-- Two snapshots that can be loaded, and have a diff with a summary, are reported on with every
limit and in either form. -/
theorem diff_reports_first (system : System) (logLevel : Option Level) (filter : Filter)
    (request : DiffRequest) {summary : DiffSummary}
    (hbefore : Snapshot.load system.files request.before = .ok before)
    (hafter : Snapshot.load system.files request.after = .ok after)
    (hdiff : Diff.ofSnapshots before after request.sorted = .ok diff)
    (hsummary : diff.summary = .ok summary) :
    ∃ contents, ReportsFirst
      (fun format limit =>
        Outcome.ofInvocation system ⟨logLevel, .diff { request with format, limit }⟩ filter)
      request.sorted diff summary contents := by
  obtain ⟨records, hrecords⟩ := Diff.exists_records hdiff hsummary
  obtain ⟨-, hcount, -⟩ := Diff.summary_eq_ok hsummary
  have hlength := Deltas.length_changed hcount
  -- what is logged does not depend on the limit and the form
  obtain ⟨notices, hrun⟩ := prepareDiff_yields hbefore hafter hdiff {}
  have hran (format : ReportFormat) (limit : Option Nat) := ofInvocation_diff
    (run_runDiff { request with format, limit } hrun (ofDiff_eq_ok hsummary hrecords limit))
    logLevel filter
  refine ⟨.ofRecords summary records, ?_⟩
  exact
    { tell := tell_ofRecords hdiff hrecords
      length_eq := hlength
      outcome_eq := by
        refine ⟨⟨Format.ofSetting system.settings.format,
          (notices.toList.map Notice.event).filter filter.enables⟩, fun limit => ⟨?_, ?_⟩⟩
        · have hlisted : summary.counts.listed limit ≤ records.length := by
            rw [← (Except.mapM_eq_ok.1 hrecords).length_eq, hlength]
            exact summary.counts.listed_le limit
          rw [hran .text limit, ← DiffReport.Contents.lines_take hlisted]
          simp [ReportFormat.lines]
        · refine ⟨_, hran .json limit, rfl, ?_⟩
          rw [DiffReport.Contents.ofRecords, ← List.map_take]
          rfl
      prefix_of_le := fun small large hle => by
        constructor
        · exact List.take_prefix_take_left (min_le_min_right _ hle)
        · exact List.take_prefix_take_left (Nat.min_le_right _ _)
      not_lt := fun hsorted limit listed hlisted omitted homitted =>
        Diff.not_lt_of_listed (hsorted ▸ hdiff) _ hlisted homitted }

/-- Of two symbols of the new build, the one that the old build has too is not listed. -/
theorem diff_reports_first_of_addition :
    let files : FileAccess :=
      { read := fun path => .ok <| .ofString <|
          if path = "old" then
            "[\x7b\x7d, [[\"lib\"]], [[\"lib\", \".text\", 0, 4, 0, \"main\"]]]"
          else
            "[\x7b\x7d, [[\"lib\"]], [[\"lib\", \".text\", 0, 4, 0, \"main\"],
              [\"lib\", \".text\", 8, 3, 0, \"fresh\"]]]"
        list := fun _ => .error .notFound }
    let system : System := { files, tool := .missing }
    let request : DiffRequest := { before := "old", after := "new", sorted := true }
    ∃ before after diff summary contents, Snapshot.load files "old" = .ok before ∧
      Snapshot.load files "new" = .ok after ∧ Diff.ofSnapshots before after true = .ok diff ∧
      diff.summary = .ok summary ∧ summary.counts = { unchanged := 1, added := 1 } ∧
      contents.lines = ["+        +3.00 .text        lib/fresh"] ∧
      ReportsFirst
        (fun format limit =>
          Outcome.ofInvocation system ⟨none, .diff { request with format, limit }⟩ (.ofLevel .info))
        true diff summary contents := by
  intro files system request
  let main : Symbol :=
    { containerName := "lib", sectionName := ".text", size := 4, fullName := "main" }
  let fresh : Symbol := { main with address := 8, size := 3, fullName := "fresh" }
  obtain ⟨before, hbefore, hold⟩ : ∃ before, Snapshot.load files "old" = .ok before ∧
      decide (before.symbols = [main] ∧ before.IsAccepted) :=
    Except.exists_of_any (by decide +kernel)
  obtain ⟨after, hafter, hnew⟩ : ∃ after, Snapshot.load files "new" = .ok after ∧
      decide (after.symbols = [main, fresh]) :=
    Except.exists_of_any (by decide +kernel)
  obtain ⟨hold, haccepted⟩ := of_decide_eq_true hold
  have hnew := of_decide_eq_true hnew
  obtain ⟨matching, hmatching, hparts⟩ := Ranking.exists_parts_eq
    (by decide : ∀ sym ∈ [main], sym.Fits) (by decide : ∀ sym ∈ [main, fresh], sym.Fits)
    (by decide +kernel : _ =
      { matched := [(⟨some 0, main⟩, ⟨some 0, main⟩)], unmatchedAfter := [⟨some 1, fresh⟩] })
  obtain ⟨hmatched, hremoved, hadded, hrounded⟩ := Matching.Parts.mk.inj hparts
  obtain ⟨diff, hdiff, harranged⟩ :=
    Diff.exists_ofSnapshots haccepted ((hold.symm ▸ hnew.symm ▸ hmatching) :
      Matching.ofSymbols before.symbols after.symbols = .ok matching) true
  rw [Matching.symbolDeltas, hmatched, hadded, hremoved, hrounded] at harranged
  have hsort : Deltas.sort [.matched ⟨some 0, main⟩ ⟨some 0, main⟩, .added ⟨some 1, fresh⟩] =
      .ok diff.deltas := harranged
  have hunchanged : (Delta.matched ⟨some 0, main⟩ ⟨some 0, main⟩).status = .ok .unchanged := by
    decide +kernel
  have hstatus : (Delta.added ⟨some 1, fresh⟩).status = .ok .added := by decide +kernel
  -- whichever comes first, the totals are the same, and the same delta is listed
  have htotals : diff.deltas.sizeBySection.toOption.any (fun _ => true) ∧
      diff.deltas.count = .ok { unchanged := 1, added := 1 } ∧ diff.deltas.totalSize = .ok 3 := by
    obtain hdeltas | hdeltas := List.perm_pair.1 (Deltas.sort_perm hsort)
    · rw [hdeltas]
      decide +kernel
    · rw [hdeltas]
      decide +kernel
  have hchanged : diff.deltas.changed = [.added ⟨some 1, fresh⟩] := by
    obtain hdeltas | hdeltas := List.perm_pair.1 (Deltas.sort_perm hsort)
    · rw [hdeltas]
      simp [Deltas.changed, hunchanged, hstatus]
    · rw [hdeltas]
      simp [Deltas.changed, hunchanged, hstatus]
  obtain ⟨hsections, hcount, hsize⟩ := htotals
  obtain ⟨sections, hsections, -⟩ := Except.exists_of_any hsections
  obtain ⟨summary, hsummary, hcounts⟩ : ∃ summary, diff.summary = .ok summary ∧
      summary.counts = { unchanged := 1, added := 1 } :=
    ⟨_, Except.bind_eq_ok.2 ⟨sections, hsections,
      Except.bind_eq_ok.2 ⟨_, hcount, Except.bind_eq_ok.2 ⟨_, hsize, rfl⟩⟩⟩, rfl⟩
  obtain ⟨contents, hreports⟩ :=
    diff_reports_first system none (.ofLevel .info) request hbefore hafter hdiff hsummary
  -- there is one line about the new symbol
  obtain ⟨record, hrecord, hline⟩ : ∃ record,
      (Delta.added ⟨some 1, fresh⟩).record = .ok record ∧
        decide (record.line = "+        +3.00 .text        lib/fresh") :=
    Except.exists_of_any (by decide +kernel)
  have hrecords : diff.deltas.changed.mapM Delta.record = .ok [record] := by
    rw [hchanged, Except.mapM_eq_ok, List.forall₂_cons]
    exact ⟨hrecord, .nil⟩
  refine ⟨before, after, diff, summary, contents, hbefore, hafter, hdiff, hsummary, hcounts, ?_,
    hreports⟩
  rw [hreports.tell.lines_eq (tell_ofRecords hdiff hrecords), DiffReport.Contents.ofRecords,
    List.map_singleton, of_decide_eq_true hline]

end BuildScope.Command
