import BuildScope.Diff.Basic
import BuildScope.Json.Printer
import BuildScope.Number.Fixed

/-!
# Diff Reports

What is printed about a diff: its totals, and the deltas that are not unchanged, at most so many.

* `DiffReport.ofDiff`: the report about a diff.
* `DiffReport.lines`, `DiffReport.toValue`: the two forms of a report.
-/

namespace BuildScope

open Json (Value)
open Number (Overflow)

/-- Report about a diff. -/
structure DiffReport where
  /-- Totals of the diff. -/
  summary : DiffSummary
  /-- The deltas that are listed. -/
  records : List DeltaRecord

/-- A number with its sign. -/
def signed (n : Int) : String :=
  if n < 0 then toString n else s!"+{n}"

/-- A text filled up with spaces at its end. -/
def padRight (width : Nat) (text : String) : String :=
  text ++ .ofList (List.replicate (width - text.length) ' ')

/-- A text filled up with spaces at its beginning. -/
def padLeft (width : Nat) (text : String) : String :=
  .ofList (List.replicate (width - text.length) ' ') ++ text

namespace DiffSummary

/-- The lines of a report about totals. -/
def lines (summary : DiffSummary) : List String :=
  let counts := summary.counts
  summary.addedContainers.map ("Added container: " ++ ·)
    ++ summary.removedContainers.map ("Removed container: " ++ ·)
    ++ [s!"Symbols: {counts.changed} changed, {counts.added} added, {counts.removed} removed, " ++
        s!"{counts.unchanged} unchanged",
      s!"Size delta: {signed summary.sizeDelta.toInt} bytes"]
    ++ summary.sectionDeltas.toList.map fun (name, size) =>
      "  " ++ padRight 24 name ++ " " ++ signed size.toInt

/-- Totals as a value. -/
def toValue (summary : DiffSummary) : Value :=
  let counts := summary.counts
  .object
    [("added_containers", .array (summary.addedContainers.map .text)),
      ("counts", .object
        [("added", .int counts.added), ("changed", .int counts.changed),
          ("removed", .int counts.removed), ("unchanged", .int counts.unchanged)]),
      ("removed_containers", .array (summary.removedContainers.map .text)),
      ("section_deltas", .object
        (summary.sectionDeltas.toList.map fun (name, size) => (name, .int size.toInt))),
      ("size_delta", .int summary.sizeDelta.toInt)]

end DiffSummary

namespace DeltaRecord

/-- The line of a report about a delta. -/
def line (record : DeltaRecord) : String :=
  " ".intercalate
    [record.status.mark.toString, padLeft 12 (Number.signedHundredths record.pss),
      padRight 12 record.sectionName, record.container ++ "/" ++ record.fullName]

/-- A delta of a report as a value. -/
def toValue (record : DeltaRecord) : Value :=
  .object
    [("aliases", .int record.aliases), ("container", .text record.container),
      ("full_name", .text record.fullName), ("padding", .int record.padding.toInt),
      ("pss", .number (.float record.pss)), ("section", .text record.sectionName),
      ("size", .int record.size.toInt), ("status", .text record.status.label)]

end DeltaRecord

namespace DiffReport

/-- The report about a diff, which lists at most `limit` deltas. -/
def ofDiff (diff : Diff) (limit : Option Nat) : Except Overflow DiffReport := do
  let records ← Diff.records diff.deltas limit
  let summary ← diff.summary
  return { summary, records }

/-- The lines of a report. An empty one stands before the deltas. -/
def lines (report : DiffReport) : List String :=
  report.summary.lines ++ (if report.records.isEmpty then [] else [""])
    ++ report.records.map DeltaRecord.line

/-- A report as a value. -/
def toValue (report : DiffReport) : Value :=
  .object
    [("summary", report.summary.toValue), ("symbols", .array (report.records.map (·.toValue)))]

end DiffReport

end BuildScope
