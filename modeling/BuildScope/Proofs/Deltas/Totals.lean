import BuildScope.Proofs.Deltas.Flatness
import BuildScope.Proofs.Deltas.Growth
import BuildScope.Proofs.Sums
import BuildScope.Proofs.Text.ByteOrder

/-!
# Totals of Deltas

A summary goes through the deltas to add up their sizes section by section, and to count them by
status. Each step is checked, so that at the end of a walk the size or the status of every delta is
known and the totals are exact. That of a section counts from the first delta that is in it.

* `Deltas.SumsBySection`: what the totals of the sections are.
* `Deltas.sumsBySection_of_eq_ok`: a walk that adds up the sections ends with these.
* `Deltas.sum_sections_eq`: the totals of the sections come to the total size.
* `Deltas.count_eq_length_withStatus`: each count is the number of deltas that a filter leaves.
-/

namespace BuildScope

open Number (Checked.add_eq_ok_iff)

namespace Deltas

variable {deltas : Deltas} {delta : Delta}

/-! ## Sizes by section -/

/-- The deltas of a section. -/
def inSection (deltas : Deltas) (name : String) : Deltas :=
  deltas.filter fun delta => delta.sectionName = name

/-- Some totals are those of the sections of some deltas. -/
structure SumsBySection (deltas : Deltas) (sizes : SectionSizes) : Prop where
  /-- The size of each delta is known. -/
  exists_size : ∀ delta ∈ deltas, ∃ size, delta.size = .ok size
  /-- The sections are those of the deltas. -/
  mem_iff : ∀ name, name ∈ sizes ↔ ∃ delta ∈ deltas, delta.sectionName = name
  /-- The total of a section is the sum of the sizes of its deltas. -/
  toInt_eq : ∀ name total, sizes[name]? = some total →
    total.toInt = ((deltas.inSection name).map Delta.bytes).sum

variable {sizes next : SectionSizes}

/-- The total of a section that no delta has is that of no deltas. -/
theorem SumsBySection.toInt_getD (h : deltas.SumsBySection sizes) (name : String) :
    (sizes.getD name 0).toInt = ((deltas.inSection name).map Delta.bytes).sum := by
  rw [Std.ExtTreeMap.getD_eq_getD_getElem?]
  cases htotal : sizes[name]? with
  | some total => exact h.toInt_eq name total htotal
  | none =>
    have hnone : deltas.inSection name = [] := by
      rw [inSection, List.filter_eq_nil_iff]
      intro delta hdelta hname
      have hmem := (h.mem_iff name).2 ⟨delta, hdelta, of_decide_eq_true hname⟩
      rw [Std.ExtTreeMap.mem_iff_isSome_getElem?, htotal] at hmem
      cases hmem
    rw [hnone]
    rfl

/-- One step of the walk, for deltas that have become one more. -/
theorem SumsBySection.addToSection (h : deltas.SumsBySection sizes)
    (hnext : addToSection sizes delta = .ok next) :
    SumsBySection (deltas ++ [delta]) next := by
  obtain ⟨size, hsize, hnext⟩ := Except.bind_eq_ok.1 hnext
  obtain ⟨total, htotal, hnext⟩ := Except.bind_eq_ok.1 hnext
  obtain rfl := Except.pure_eq_ok.1 hnext
  have htotal' := Checked.add_eq_ok_iff.1 htotal
  refine ⟨List.forall_mem_append.2 ⟨h.exists_size, List.forall_mem_singleton.2 ⟨size, hsize⟩⟩,
    fun name => ?_, fun name total' hname => ?_⟩
  · rw [Std.ExtTreeMap.mem_insert, compare_eq_iff_eq, h.mem_iff]
    simp only [List.mem_append, List.mem_singleton, or_and_right, exists_or, exists_eq_left]
    exact or_comm
  · rw [Std.ExtTreeMap.getElem?_insert] at hname
    simp only [compare_eq_iff_eq] at hname
    rw [inSection, List.filter_append, List.map_append, List.sum_append]
    -- the other sections keep their totals
    split at hname
    next heq =>
      cases hname
      subst heq
      rw [htotal', h.toInt_getD, List.filter_singleton, decide_eq_true rfl, cond_true,
        List.map_singleton, List.sum_singleton, Delta.bytes_eq hsize, inSection]
    next hne =>
      rw [List.filter_singleton, decide_eq_false hne, cond_false, List.map_nil, List.sum_nil,
        add_zero]
      exact h.toInt_eq name total' hname

theorem sizeBySection_append_singleton (deltas : Deltas) (delta : Delta) :
    sizeBySection (deltas ++ [delta]) =
      deltas.sizeBySection >>= fun sizes => addToSection sizes delta := by
  simp [sizeBySection, List.foldlM_append]

/-- Totals of sections that can be computed are the sums of the sizes. -/
theorem sumsBySection_of_eq_ok (h : deltas.sizeBySection = .ok sizes) :
    deltas.SumsBySection sizes := by
  induction deltas using List.reverseRecOn generalizing sizes with
  | nil =>
    cases h
    exact ⟨by simp, by simp, by simp⟩
  | append_singleton deltas delta ih =>
    rw [sizeBySection_append_singleton] at h
    obtain ⟨rest, hrest, h⟩ := Except.bind_eq_ok.1 h
    exact (ih hrest).addToSection h

/-- Sections are listed in the order of the bytes of their names, each once. -/
theorem pairwise_sections (sizes : SectionSizes) :
    sizes.toList.Pairwise fun a b => Text.bytes a.1 < Text.bytes b.1 :=
  Std.ExtTreeMap.ordered_keys_toList.imp Text.compare_eq_lt_iff_bytes_lt.1

theorem mem_map_fst_sections {name : String} : name ∈ sizes.toList.map Prod.fst ↔ name ∈ sizes := by
  rw [Std.ExtTreeMap.map_fst_toList_eq_keys, Std.ExtTreeMap.mem_keys]

/-- The totals of the sections come to the total size. -/
theorem SumsBySection.sum_sections_eq (h : deltas.SumsBySection sizes) :
    (sizes.toList.map fun size => size.2.toInt).sum = (deltas.map Delta.bytes).sum := by
  have hnodup : (sizes.toList.map Prod.fst).Nodup := by
    refine List.pairwise_map.2 ((pairwise_sections sizes).imp fun {a b} hlt heq => ?_)
    rw [heq] at hlt
    exact List.lt_irrefl _ hlt
  have hcovered : ∀ delta ∈ deltas, delta.sectionName ∈ sizes.toList.map Prod.fst :=
    fun delta hdelta => mem_map_fst_sections.2 ((h.mem_iff _).2 ⟨delta, hdelta, rfl⟩)
  have htotals : (sizes.toList.map fun size => size.2.toInt) =
      (sizes.toList.map Prod.fst).map fun name =>
        ((deltas.inSection name).map Delta.bytes).sum := by
    rw [List.map_map]
    refine List.map_congr_left fun size hsize => ?_
    exact h.toInt_eq _ _ (Std.ExtTreeMap.mem_toList_iff_getElem?_eq_some.1 hsize)
  rw [htotals]
  exact sum_fibers Delta.sectionName Delta.bytes hnodup hcovered

/-! ## Counts -/

theorem count_append_singleton (deltas : Deltas) (delta : Delta) :
    count (deltas ++ [delta]) =
      deltas.count >>= fun counts => delta.status >>= fun status => .ok (counts.add status) := by
  simp [count, List.foldlM_append]
  rfl

/-- Counts that can be computed are those of the deltas of each status. -/
theorem of_count {counts : StatusCounts} (h : deltas.count = .ok counts) :
    (∀ delta ∈ deltas, ∃ status, delta.status = .ok status) ∧ ∀ status,
      counts.of status = (deltas.filter fun delta => delta.status = .ok status).length := by
  induction deltas using List.reverseRecOn generalizing counts with
  | nil =>
    cases h
    refine ⟨by simp, fun status => ?_⟩
    cases status <;> rfl
  | append_singleton deltas delta ih =>
    rw [count_append_singleton] at h
    obtain ⟨rest, hrest, h⟩ := Except.bind_eq_ok.1 h
    obtain ⟨own, hown, h⟩ := Except.bind_eq_ok.1 h
    cases h
    obtain ⟨hall, hcounts⟩ := ih hrest
    refine ⟨List.forall_mem_append.2 ⟨hall, List.forall_mem_singleton.2 ⟨own, hown⟩⟩,
      fun status => ?_⟩
    · rw [StatusCounts.of_add, hcounts, List.filter_append, List.length_append,
        List.filter_singleton, hown]
      by_cases hstatus : own = status
      · simp [hstatus]
      · simp [hstatus]

/-- Each count is the number of deltas that a filter by the status leaves. -/
theorem count_eq_length_withStatus {counts : StatusCounts} (h : deltas.count = .ok counts)
    (status : Status) : ∃ kept, deltas.withStatus status = .ok kept ∧
      counts.of status = kept.length := by
  obtain ⟨hall, hcounts⟩ := of_count h
  exact ⟨_, withStatus_eq_ok.2 ⟨hall, rfl⟩, hcounts status⟩

/-- Every delta is counted once. -/
theorem total_count {counts : StatusCounts} (h : deltas.count = .ok counts) :
    counts.total = deltas.length := by
  induction deltas using List.reverseRecOn generalizing counts with
  | nil =>
    cases h
    rfl
  | append_singleton deltas delta ih =>
    rw [count_append_singleton] at h
    obtain ⟨rest, hrest, h⟩ := Except.bind_eq_ok.1 h
    obtain ⟨own, -, h⟩ := Except.bind_eq_ok.1 h
    cases h
    have htotal : (rest.add own).total = rest.total + 1 := by
      cases own <;> simp only [StatusCounts.add, StatusCounts.total] <;> omega
    rw [htotal, ih hrest, List.length_append, List.length_singleton]

end Deltas

end BuildScope
