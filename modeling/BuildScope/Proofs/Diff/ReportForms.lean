import BuildScope.Diff.Report
import BuildScope.Proofs.Deltas.Flatness
import BuildScope.Proofs.Number.Hundredths

/-!
# Lines and Items of Reports

What a report says about each delta that it lists, as a line of its text or as an item of its JSON
form, and about the totals of the diff. This is told of the deltas and of the values computed of
them, and not by the functions that print.

* `DeltaRecord.IsOf`: a record has the values of a delta, and the texts of its newer symbol.
* `DeltaRecord.IsLine`, `DeltaRecord.IsItem`: what is printed about a record.
* `DiffSummary.IsOpening`, `DiffSummary.IsTotals`: what is printed about totals.
* `DiffReport.Contents.Tell`: what the reports on a diff consist of tells of all that has changed.
* `Delta.HasLine.unique`: there is one line about a delta.
-/

namespace BuildScope

open Json (Value)
open Number (WritesHundredths)

/-! ## Columns and numbers -/

/-- A text stands at the right of a column, behind spaces. The column has a given width, unless the
text is wider. -/
def AlignedRight (width : ℕ) (text column : String) : Prop :=
  column.length = max width text.length ∧
    ∃ gap, (∀ c ∈ gap, c = ' ') ∧ column.toList = gap ++ text.toList

/-- A text stands at the left of a column, before spaces. -/
def AlignedLeft (width : ℕ) (text column : String) : Prop :=
  column.length = max width text.length ∧
    ∃ gap, (∀ c ∈ gap, c = ' ') ∧ column.toList = text.toList ++ gap

/-- A text writes an integer with its sign. Zero has that of a gain. -/
inductive WritesSigned : ℤ → String → Prop
  /-- A gain, or nothing. -/
  | gain (n : ℕ) : WritesSigned n ("+" ++ toString n)
  /-- A loss. -/
  | loss (n : ℕ) : WritesSigned (-(n + 1 : ℕ)) ("-" ++ toString (n + 1))

section

variable {width : ℕ} {text column column' : String}

/-- Filling up in front aligns a text with the right. -/
theorem alignedRight_padLeft (width : ℕ) (text : String) :
    AlignedRight width text (padLeft width text) := by
  refine ⟨?_, List.replicate (width - text.length) ' ', ?_, ?_⟩
  · simp only [padLeft, String.length_append, String.length_ofList, List.length_replicate]
    omega
  · exact fun c hc => List.eq_of_mem_replicate hc
  · simp only [padLeft, String.toList_append, String.toList_ofList]

/-- Filling up at the end aligns a text with the left. -/
theorem alignedLeft_padRight (width : ℕ) (text : String) :
    AlignedLeft width text (padRight width text) := by
  refine ⟨?_, List.replicate (width - text.length) ' ', ?_, ?_⟩
  · simp only [padRight, String.length_append, String.length_ofList, List.length_replicate]
    omega
  · exact fun c hc => List.eq_of_mem_replicate hc
  · simp only [padRight, String.toList_append, String.toList_ofList]

/-- Gaps of one length are the same. -/
theorem gap_eq {gap gap' : List Char} (h : ∀ c ∈ gap, c = ' ') (h' : ∀ c ∈ gap', c = ' ')
    (hlength : gap.length = gap'.length) : gap = gap' := by
  rw [List.eq_replicate_of_mem h, List.eq_replicate_of_mem h', hlength]

/-- The widths of a column and of its text leave one gap. -/
theorem AlignedRight.unique (h : AlignedRight width text column)
    (h' : AlignedRight width text column') : column = column' := by
  obtain ⟨hlength, gap, hgap, hcolumn⟩ := h
  obtain ⟨hlength', gap', hgap', hcolumn'⟩ := h'
  rw [← String.length_toList, hcolumn, List.length_append, String.length_toList] at hlength
  rw [← String.length_toList, hcolumn', List.length_append, String.length_toList] at hlength'
  rw [← String.toList_inj, hcolumn, hcolumn', gap_eq hgap hgap' (by omega)]

theorem AlignedLeft.unique (h : AlignedLeft width text column)
    (h' : AlignedLeft width text column') : column = column' := by
  obtain ⟨hlength, gap, hgap, hcolumn⟩ := h
  obtain ⟨hlength', gap', hgap', hcolumn'⟩ := h'
  rw [← String.length_toList, hcolumn, List.length_append, String.length_toList] at hlength
  rw [← String.length_toList, hcolumn', List.length_append, String.length_toList] at hlength'
  rw [← String.toList_inj, hcolumn, hcolumn', gap_eq hgap hgap' (by omega)]

theorem writesSigned_signed (n : ℤ) : WritesSigned n (signed n) := by
  cases n with
  | ofNat n => exact .gain n
  | negSucc n =>
    rw [signed, if_pos (Int.negSucc_lt_zero n)]
    exact .loss n

end

/-! ## Deltas -/

/-- The mark and the name of a status that is listed. -/
inductive Status.IsListed : Status → String → String → Prop
  /-- A symbol of both builds. -/
  | changed : IsListed .changed "~" "changed"
  /-- A symbol of the new build. -/
  | added : IsListed .added "+" "added"
  /-- A symbol of the old build. -/
  | removed : IsListed .removed "-" "removed"

/-- Any status but that of unchanged symbols is listed, with its mark and its name. -/
theorem Status.isListed_of_ne {status : Status} (h : status ≠ .unchanged) :
    status.IsListed status.mark.toString status.label := by
  cases status with
  | unchanged => exact absurd rfl h
  | changed => exact .changed
  | added => exact .added
  | removed => exact .removed

namespace DeltaRecord

variable {record record' : DeltaRecord} {delta : Delta} {line line' : String}

/-- A record has the values that are computed of a delta, and the texts of its newer symbol. -/
structure IsOf (record : DeltaRecord) (delta : Delta) : Prop where
  /-- Its status. -/
  status_eq : delta.status = .ok record.status
  /-- Its change of size. -/
  size_eq : delta.size = .ok record.size
  /-- The change of the padding that it answers for. -/
  padding_eq : delta.padding = .ok record.padding
  /-- Its change of proportional size. -/
  pss_eq : delta.pss = .ok record.pss
  /-- The texts are those of the symbol of the new build, or else of the old one. -/
  texts_eq : ∃ side, delta.sides.after.or delta.sides.before = some side ∧
    record.container = side.symbol.containerName ∧
    record.sectionName = side.symbol.sectionName ∧ record.fullName = side.symbol.fullName
  /-- The number of the deltas that it stands for. -/
  aliases_eq : record.aliases = delta.expand.length

/-- A line of a report is about a record. -/
def IsLine (record : DeltaRecord) (line : String) : Prop :=
  ∃ mark label number numberColumn sectionColumn,
    record.status.IsListed mark label ∧ WritesHundredths (.ofFloat record.pss) number ∧
      AlignedRight 12 number numberColumn ∧ AlignedLeft 12 record.sectionName sectionColumn ∧
      line = mark ++ " " ++ numberColumn ++ " " ++ sectionColumn ++ " " ++
        (record.container ++ "/" ++ record.fullName)

/-- An item of a report is about a record. -/
structure IsItem (record : DeltaRecord) (item : Value) : Prop where
  /-- Its status, by name. -/
  status : ∃ mark label, record.status.IsListed mark label ∧
    item.get? "status" = some (.text label)
  /-- Its change of size. -/
  size : item.get? "size" = some (.int record.size.toInt)
  /-- Its change of padding. -/
  padding : item.get? "padding" = some (.int record.padding.toInt)
  /-- Its change of proportional size. -/
  pss : item.get? "pss" = some (.number (.float record.pss))
  /-- Its container. -/
  container : item.get? "container" = some (.text record.container)
  /-- Its section. -/
  sectionName : item.get? "section" = some (.text record.sectionName)
  /-- Its full name. -/
  fullName : item.get? "full_name" = some (.text record.fullName)
  /-- Its number of aliases. -/
  aliases : item.get? "aliases" = some (.int record.aliases)

/-- The record that is made of a delta is one of it. -/
theorem isOf_of_record (hflat : delta.IsFlat) (h : delta.record = .ok record) :
    record.IsOf delta := by
  simp only [Delta.record, Except.bind_eq_ok] at h
  obtain ⟨status, hstatus, size, hsize, padding, hpadding, pss, hpss, h⟩ := h
  obtain rfl := Except.pure_eq_ok.1 h
  obtain ⟨side, hside⟩ : ∃ side, delta.sides.after.or delta.sides.before = some side := by
    rw [← Option.isSome_iff_exists, Option.isSome_or, Bool.or_eq_true]
    exact hflat.hasSide.symm
  have htext (text : Symbol → String) : delta.textOf text = text side.symbol := by
    rw [Delta.textOf, Delta.symbol?, Sides.newer?, hside]
    rfl
  have haliases : delta.aliasCount = delta.expand.length := by
    cases delta with
    | single change => rfl
    | aliasGroup sides members =>
      -- a group has two members at least, and a record counts one at least
      have htwo := (hflat.ofGroup sides members rfl).1
      exact Nat.max_eq_left (by omega : 1 ≤ members.length)
  exact ⟨hstatus, hsize, hpadding, hpss, ⟨side, hside, htext _, htext _, htext _⟩, haliases⟩

/-- A delta has one record. -/
theorem IsOf.unique (h : record.IsOf delta) (h' : record'.IsOf delta) : record = record' := by
  obtain ⟨hstatus, hsize, hpadding, hpss, ⟨side, hside, htexts⟩, haliases⟩ := h
  obtain ⟨hstatus', hsize', hpadding', hpss', ⟨side', hside', htexts'⟩, haliases'⟩ := h'
  obtain rfl : side = side' := Option.some.inj (hside.symm.trans hside')
  obtain ⟨status, container, sectionName, fullName, size, padding, pss, aliases⟩ := record
  obtain ⟨rfl, rfl, rfl⟩ := htexts
  cases hstatus.symm.trans hstatus'
  cases hsize.symm.trans hsize'
  cases hpadding.symm.trans hpadding'
  cases hpss.symm.trans hpss'
  simp only at haliases
  simp only [haliases, ← htexts', ← haliases']

/-- A report prints a line about a record. -/
theorem isLine_line (h : record.status ≠ .unchanged) : record.IsLine record.line :=
  ⟨_, _, _, _, _, Status.isListed_of_ne h, Number.writesHundredths_signedHundredths _,
    alignedRight_padLeft 12 _, alignedLeft_padRight 12 _, rfl⟩

/-- A report has an item about a record. -/
theorem isItem_toValue (h : record.status ≠ .unchanged) : record.IsItem record.toValue :=
  ⟨⟨_, _, Status.isListed_of_ne h, rfl⟩, rfl, rfl, rfl, rfl, rfl, rfl, rfl⟩

/-- There is one line about a record. -/
theorem IsLine.unique (h : record.IsLine line) (h' : record.IsLine line') : line = line' := by
  obtain ⟨mark, label, number, numberColumn, sectionColumn, hmark, hnumber, hright, hleft, rfl⟩ := h
  obtain ⟨mark', label', number', numberColumn', sectionColumn', hmark', hnumber', hright', hleft',
    rfl⟩ := h'
  obtain rfl := hnumber.unique hnumber'
  rw [hright.unique hright', hleft.unique hleft']
  obtain rfl : mark = mark' := by
    generalize record.status = status at hmark hmark'
    cases hmark <;> cases hmark' <;> rfl
  rfl

end DeltaRecord

namespace Delta

variable {delta : Delta} {line line' : String}

/-- A line of a report is about a delta. -/
def HasLine (delta : Delta) (line : String) : Prop :=
  ∃ record : DeltaRecord, record.IsOf delta ∧ record.IsLine line

/-- An item of a report is about a delta. -/
def HasItem (delta : Delta) (item : Value) : Prop :=
  ∃ record : DeltaRecord, record.IsOf delta ∧ record.IsItem item

/-- There is one line about a delta. -/
theorem HasLine.unique (h : delta.HasLine line) (h' : delta.HasLine line') : line = line' := by
  obtain ⟨record, hof, hline⟩ := h
  obtain ⟨record', hof', hline'⟩ := h'
  obtain rfl := hof.unique hof'
  exact hline.unique hline'

end Delta

/-! ## Totals -/

namespace DiffSummary

variable {summary : DiffSummary}

/-- A line is about the change of size of a section. -/
def IsSectionLine (total : String × Int64) (line : String) : Prop :=
  ∃ column size, AlignedLeft 24 total.1 column ∧ WritesSigned total.2.toInt size ∧
    line = "  " ++ column ++ " " ++ size

/-- Some lines are about totals. -/
def IsOpening (summary : DiffSummary) (opening : List String) : Prop :=
  ∃ size sections, WritesSigned summary.sizeDelta.toInt size ∧
    List.Forall₂ IsSectionLine summary.sectionDeltas.toList sections ∧
    opening = summary.addedContainers.map ("Added container: " ++ ·) ++
      summary.removedContainers.map ("Removed container: " ++ ·) ++
      ("Symbols: " ++ toString summary.counts.changed ++ " changed, " ++
        toString summary.counts.added ++ " added, " ++ toString summary.counts.removed ++
        " removed, " ++ toString summary.counts.unchanged ++ " unchanged") ::
      ("Size delta: " ++ size ++ " bytes") :: sections

/-- A value is about totals. -/
structure IsTotals (summary : DiffSummary) (totals : Value) : Prop where
  /-- The containers that are added. -/
  added : totals.get? "added_containers" = some (.array (summary.addedContainers.map .text))
  /-- The containers that are removed. -/
  removed : totals.get? "removed_containers" = some (.array (summary.removedContainers.map .text))
  /-- The number of deltas of each status. -/
  counts : ∃ counts, totals.get? "counts" = some counts ∧
    counts.get? "added" = some (.int summary.counts.added) ∧
    counts.get? "changed" = some (.int summary.counts.changed) ∧
    counts.get? "removed" = some (.int summary.counts.removed) ∧
    counts.get? "unchanged" = some (.int summary.counts.unchanged)
  /-- The changes of the sections. -/
  sections : totals.get? "section_deltas" = some (.object
    (summary.sectionDeltas.toList.map fun total => (total.1, .int total.2.toInt)))
  /-- The total change of size. -/
  size : totals.get? "size_delta" = some (.int summary.sizeDelta.toInt)

/-- A report opens with lines about totals. -/
theorem isOpening_lines (summary : DiffSummary) : summary.IsOpening summary.lines := by
  refine ⟨_, summary.sectionDeltas.toList.map fun total =>
    "  " ++ padRight 24 total.1 ++ " " ++ signed total.2.toInt, writesSigned_signed _, ?_, ?_⟩
  · rw [List.forall₂_map_right_iff, List.forall₂_same]
    exact fun total _ =>
      ⟨_, _, alignedLeft_padRight 24 total.1, writesSigned_signed total.2.toInt, rfl⟩
  · simp only [lines, String.append_assoc, List.append_assoc]
    rfl

/-- A report has a value about totals. -/
theorem isTotals_toValue (summary : DiffSummary) : summary.IsTotals summary.toValue :=
  ⟨rfl, rfl, ⟨_, rfl, rfl, rfl, rfl, rfl⟩, rfl, rfl⟩

end DiffSummary

/-! ## Reports -/

/-- What the reports on a diff consist of, whatever their limits. -/
structure DiffReport.Contents where
  /-- The lines about totals. -/
  opening : List String
  /-- A line about each delta that is not unchanged. -/
  lines : List String
  /-- The value about totals. -/
  totals : Value
  /-- An item about each delta that is not unchanged. -/
  items : List Value

namespace DiffReport.Contents

/-- Some contents tell of the totals of a diff, and of its deltas that are not unchanged, one after
the other. -/
structure Tell (contents : Contents) (summary : DiffSummary) (changed : Deltas) : Prop where
  /-- The lines about totals. -/
  opening : summary.IsOpening contents.opening
  /-- The value about totals. -/
  totals : summary.IsTotals contents.totals
  /-- The lines. -/
  lines : List.Forall₂ Delta.HasLine changed contents.lines
  /-- The items. -/
  items : List.Forall₂ Delta.HasItem changed contents.items

/-- The text of a report that lists so many deltas. An empty line stands before them. -/
def text (contents : Contents) (count : ℕ) : List String :=
  contents.opening ++ (if count = 0 then [] else [""]) ++ contents.lines.take count

/-- The contents of reports with some totals and records. -/
def ofRecords (summary : DiffSummary) (records : List DeltaRecord) : Contents :=
  ⟨summary.lines, records.map DeltaRecord.line, summary.toValue, records.map DeltaRecord.toValue⟩

variable {contents contents' : Contents} {summary : DiffSummary} {records : List DeltaRecord}
  {changed : Deltas}

/-- The lines about some deltas are determined by these. -/
theorem Tell.lines_eq (h : contents.Tell summary changed) (h' : contents'.Tell summary changed) :
    contents.lines = contents'.lines :=
  List.right_unique_forall₂' (fun _ _ _ hline hline' => hline.unique hline') h.lines h'.lines

/-- What is printed about the deltas that are not unchanged tells of them. -/
theorem tell_ofRecords (hflat : ∀ delta ∈ changed, delta.IsFlat)
    (hchanged : ∀ delta ∈ changed, delta.status ≠ .ok .unchanged)
    (hrecords : changed.mapM Delta.record = .ok records) :
    (ofRecords summary records).Tell summary changed := by
  have hpaired := Except.mapM_eq_ok.1 hrecords
  -- each record is of its delta, and none is of one that is unchanged
  have hof : List.Forall₂ (fun delta record => record.IsOf delta ∧ record.status ≠ .unchanged)
      changed records := by
    refine (List.forall₂_iff_zip.2 ⟨hpaired.length_eq, fun {delta record} hmem => ?_⟩)
    have hdelta := List.of_mem_zip hmem
    have hrecord := (List.forall₂_iff_zip.1 hpaired).2 hmem
    have h := DeltaRecord.isOf_of_record (hflat delta hdelta.1) hrecord
    exact ⟨h, fun hstatus => hchanged delta hdelta.1 (hstatus ▸ h.status_eq)⟩
  exact
    { opening := DiffSummary.isOpening_lines summary
      totals := DiffSummary.isTotals_toValue summary
      lines := by
        rw [ofRecords, List.forall₂_map_right_iff]
        exact hof.imp fun _ _ h => ⟨_, h.1, DeltaRecord.isLine_line h.2⟩
      items := by
        rw [ofRecords, List.forall₂_map_right_iff]
        exact hof.imp fun _ _ h => ⟨_, h.1, DeltaRecord.isItem_toValue h.2⟩ }

/-- A report that lists the first of some records has the text of these contents. -/
theorem lines_take {count : ℕ} (hcount : count ≤ records.length) :
    DiffReport.lines ⟨summary, records.take count⟩ = (ofRecords summary records).text count := by
  have hempty : (records.take count).isEmpty = true ↔ count = 0 := by
    rw [List.isEmpty_iff, List.take_eq_nil_iff]
    refine ⟨fun h => h.elim id fun hnil => ?_, .inl⟩
    rw [hnil] at hcount
    exact Nat.le_zero.1 hcount
  simp only [DiffReport.lines, text, ofRecords, hempty, List.map_take]

end DiffReport.Contents

end BuildScope
