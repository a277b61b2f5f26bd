import BuildScope.Diff.Report
import BuildScope.Proofs.Deltas.Numbers
import BuildScope.Proofs.Deltas.Totals
import BuildScope.Proofs.Diff.Summary

/-!
# What a Report Lists

A report lists the first deltas that are not unchanged, as many as its limit allows. It walks the
deltas and stops where the limit is used up. What does not depend on the limit is which deltas are
changed, and the line about each of them.

* `Deltas.changed`: the deltas that a report without a limit lists.
* `Deltas.length_changed`: how many they are, as the counts tell.
* `Diff.records_eq_atMost`: with a limit, the first of them are listed.
* `Diff.not_lt_of_listed`: if they were sorted, what is left out has not changed more.
-/

namespace BuildScope

open Number (abs_lt_abs_iff)

/-- How many deltas a report lists: those that are not unchanged, at most so many. -/
def StatusCounts.listed (counts : StatusCounts) : Option Nat → Nat
  | none => counts.changed + counts.added + counts.removed
  | some limit => min limit (counts.changed + counts.added + counts.removed)

theorem StatusCounts.listed_le (counts : StatusCounts) (limit : Option Nat) :
    counts.listed limit ≤ counts.changed + counts.added + counts.removed := by
  cases limit with
  | none => exact le_rfl
  | some limit => exact Nat.min_le_right _ _

namespace Deltas

variable {deltas : Deltas}

/-- The deltas that are not unchanged. -/
def changed (deltas : Deltas) : Deltas :=
  deltas.filter fun delta => delta.status ≠ .ok .unchanged

theorem changed_sublist (deltas : Deltas) : deltas.changed.Sublist deltas :=
  List.filter_sublist

/-- The changed deltas are those that are counted as changed, added or removed. -/
theorem length_changed {counts : StatusCounts} (h : deltas.count = .ok counts) :
    deltas.changed.length = counts.changed + counts.added + counts.removed := by
  have hunchanged : counts.unchanged = (deltas.filter fun delta =>
      delta.status = .ok .unchanged).length := (of_count h).2 .unchanged
  have hsplit := List.length_eq_length_filter_add (l := deltas) fun delta =>
    delta.status = .ok .unchanged
  have htotal := total_count h
  have hchanged : deltas.changed = deltas.filter fun delta =>
      !decide (delta.status = .ok .unchanged) := by
    simp [changed]
  rw [StatusCounts.total] at htotal
  rw [hchanged]
  omega

end Deltas

namespace Diff

variable {delta : Delta} {deltas : Deltas} {record : DeltaRecord} {all : List DeltaRecord}

theorem records_zero (deltas : Deltas) : records deltas (some 0) = .ok [] := by
  cases deltas <;> rfl

/-- Unchanged deltas do not use up the limit. -/
theorem records_cons_of_unchanged (h : delta.status = .ok .unchanged) (limit : Option Nat) :
    records (delta :: deltas) limit = records deltas limit := by
  have hnext (limit : Option Nat) (hlimit : limit ≠ some 0) :
      records (delta :: deltas) limit = records deltas limit := by
    rw [records, h]
    · rfl
    · exact hlimit
  rcases limit with _ | _ | n
  · exact hnext none nofun
  · rw [records_zero, records_zero]
  · exact hnext (some (n + 1)) nofun

/-- Any other delta is listed as long as the limit is not used up, and uses up one of it. -/
theorem records_cons_of_ne {status : Status} (hstatus : delta.status = .ok status)
    (hne : status ≠ .unchanged) (hrecord : delta.record = .ok record) (limit : Option Nat)
    (hlimit : limit ≠ some 0) :
    records (delta :: deltas) limit = (record :: ·) <$> records deltas (limit.map (· - 1)) := by
  rw [records, hstatus]
  · show (if status = .unchanged then _ else _) = _
    rw [if_neg hne, hrecord]
    rfl
  · exact hlimit

/-- The first of some lines, as many as a limit allows. -/
def atMost (limit : Option Nat) (lines : List DeltaRecord) : List DeltaRecord :=
  match limit with
  | none => lines
  | some limit => lines.take limit

/-- Reports list the first records of the changed deltas. -/
theorem records_eq_atMost (hstatus : ∀ delta ∈ deltas, ∃ status, delta.status = .ok status)
    (hall : deltas.changed.mapM Delta.record = .ok all) (limit : Option Nat) :
    records deltas limit = .ok (atMost limit all) := by
  induction deltas generalizing all limit with
  | nil =>
    cases hall
    rcases limit with _ | _ | n
    · rfl
    · rfl
    · rfl
  | cons delta deltas ih =>
    obtain ⟨⟨status, hown⟩, hrest⟩ := List.forall_mem_cons.1 hstatus
    rw [Deltas.changed, List.filter_cons] at hall
    by_cases hunchanged : status = .unchanged
    · rw [hunchanged] at hown
      rw [records_cons_of_unchanged hown]
      rw [if_neg (by simp [hown])] at hall
      exact ih hrest hall limit
    · rw [if_pos (by simp [hown, hunchanged]), List.mapM_cons] at hall
      obtain ⟨record, hrecord, hall⟩ := Except.bind_eq_ok.1 hall
      obtain ⟨rest, hall', hall⟩ := Except.bind_eq_ok.1 hall
      obtain rfl := Except.pure_eq_ok.1 hall
      have hnext := fun limit => ih hrest hall' limit
      -- with no limit left the record is not made, although it could be
      rcases limit with _ | _ | n
      · rw [records_cons_of_ne hown hunchanged hrecord none nofun, Option.map_none, hnext]
        rfl
      · rw [records_zero]
        rfl
      · rw [records_cons_of_ne hown hunchanged hrecord (some (n + 1)) nofun, Option.map_some, hnext]
        rfl

/-- What the changed deltas come to, as many as a limit allows. -/
theorem atMost_eq_take {counts : StatusCounts} (hcount : deltas.count = .ok counts)
    (hall : deltas.changed.mapM Delta.record = .ok all) (limit : Option Nat) :
    atMost limit all = all.take (counts.listed limit) := by
  have hlength : all.length = counts.changed + counts.added + counts.removed :=
    (Except.mapM_eq_ok.1 hall).length_eq.symm.trans (Deltas.length_changed hcount)
  cases limit with
  | none => exact (List.take_of_length_le hlength.le).symm
  | some limit =>
    show all.take limit = all.take (min limit _)
    rw [← hlength, List.take_eq_take_min]

variable {before after : Snapshot} {sorted : Bool} {diff : Diff} {summary : DiffSummary}

/-- Where there is a summary, there is a record of each delta. -/
theorem exists_records (h : ofSnapshots before after sorted = .ok diff)
    (hsummary : diff.summary = .ok summary) :
    ∃ all, diff.deltas.changed.mapM Delta.record = .ok all := by
  obtain ⟨-, hcount, hsize, -⟩ := summary_eq_ok hsummary
  refine Except.exists_mapM_eq_ok.2 fun delta hdelta => ?_
  have hmem := (Deltas.changed_sublist diff.deltas).subset hdelta
  obtain ⟨size, hsize⟩ := (Deltas.toInt_totalSize hsize).1 delta hmem
  -- the padding is a part of the size
  obtain ⟨_, -, hrest⟩ := Except.bind_eq_ok.1 hsize
  obtain ⟨padding, hpadding, -⟩ := Except.bind_eq_ok.1 hrest
  exact Delta.exists_record ((Deltas.of_count hcount).1 delta hmem) ⟨size, hsize⟩
    ⟨padding, hpadding⟩ (exists_pss_of_mem h hmem)

/-- If a diff is sorted, a delta that is left out of a report has not changed more than one that is
listed. -/
theorem not_lt_of_listed (h : ofSnapshots before after true = .ok diff) (count : ℕ)
    {listed omitted : Delta} (hlisted : listed ∈ diff.deltas.changed.take count)
    (homitted : omitted ∈ diff.deltas.changed.drop count) :
    ∃ x y, listed.pss = .ok x ∧ omitted.pss = .ok y ∧ ¬x.abs < y.abs := by
  obtain ⟨matching, -, -, hsort⟩ := ofSnapshots_eq_ok h
  have hnumber (delta : Delta) (hdelta : delta ∈ diff.deltas) : delta.HasNumber :=
    hasNumber_of_mem h hdelta
  have hsorts := Deltas.sortsTo_of_sort
    (fun delta hdelta => hnumber delta ((Deltas.sort_perm hsort).symm.subset hdelta)) hsort
  -- leaving out unchanged deltas leaves the others in order
  have hordered := hsorts.ordered.sublist (Deltas.changed_sublist diff.deltas)
  have hmem := (Deltas.changed_sublist diff.deltas).subset
  exact (hordered.rel_of_mem_take_of_mem_drop hlisted homitted).exists_not_lt
    (hnumber listed (hmem (List.mem_of_mem_take hlisted)))
    (hnumber omitted (hmem (List.mem_of_mem_drop homitted)))

end Diff

end BuildScope
