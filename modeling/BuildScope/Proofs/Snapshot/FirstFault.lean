import BuildScope.Proofs.Snapshot.Admission

/-!
# The First Fault of a Snapshot

Symbols are checked one after the other, and each of them in three steps: its container, then its
aliases, then its padding. What is reported is the first check that the first faulty symbol fails,
whatever else is wrong with this symbol or with later ones.

* `Symbol.Fails`: the first check that a symbol fails, with what is reported of it.
* `Symbol.exists_fails_iff`: a symbol fails a check exactly if it is not admissible.
* `Snapshot.ofLists_accepts_or_blames`: which snapshots are accepted, and what is said of others.
-/

namespace BuildScope

namespace Symbol

/-- The first of the three checks that a symbol fails, as it is reported. -/
inductive Fails (containerNames : List String) (sym : Symbol) : SnapshotFault → Prop
  /-- Its container is not listed. -/
  | container (hcontainer : sym.containerName ∉ containerNames) :
      Fails containerNames sym (.unknownContainer sym.containerName)
  /-- Its container is listed, but it has no alias. -/
  | aliases (hcontainer : sym.containerName ∈ containerNames) (haliases : sym.numAliases = 0) :
      Fails containerNames sym (.noAliases sym.fullName)
  /-- Both are in order, but the padding is no part of the size of a symbol that is no overhead. -/
  | padding (hcontainer : sym.containerName ∈ containerNames) (haliases : sym.numAliases ≠ 0)
      (hoverhead : sym.isOverhead = false)
      (hpadding : sym.padding.toInt < 0 ∨ sym.size.toInt < sym.padding.toInt) :
      Fails containerNames sym (.paddingOutside sym.fullName sym.padding sym.size)

variable {containerNames : List String} {sym : Symbol} {fault : SnapshotFault}

/-- The padding of a symbol that is no overhead is checked against its size. -/
theorem outside_iff : (!sym.isOverhead && (sym.padding < 0 || sym.size < sym.padding)) = true ↔
    sym.isOverhead = false ∧
      (sym.padding.toInt < 0 ∨ sym.size.toInt < sym.padding.toInt) := by
  rw [Bool.and_eq_true, Bool.not_eq_true', Bool.or_eq_true, decide_eq_true_iff,
    decide_eq_true_iff, Int64.lt_iff_toInt_lt, Int64.lt_iff_toInt_lt]
  rfl

theorem fault?_eq_some_iff :
    sym.fault? containerNames = some fault ↔ sym.Fails containerNames fault := by
  constructor
  · intro h
    unfold fault? at h
    -- each branch has passed the checks before it
    split at h
    next hcontainer =>
      cases h
      exact .container (by simpa using hcontainer)
    next hcontainer =>
      have hmem : sym.containerName ∈ containerNames := by simpa using hcontainer
      split at h
      next haliases =>
        cases h
        exact .aliases hmem haliases
      next haliases =>
        split at h
        next hpadding =>
          cases h
          obtain ⟨hoverhead, houtside⟩ := outside_iff.1 hpadding
          exact .padding hmem haliases hoverhead houtside
        next => cases h
  · intro h
    unfold fault?
    cases h with
    | container hcontainer => rw [if_pos (by simpa using hcontainer)]
    | aliases hcontainer haliases => rw [if_neg (by simpa using hcontainer), if_pos haliases]
    | padding hcontainer haliases hoverhead hpadding =>
      rw [if_neg (by simpa using hcontainer), if_neg haliases,
        if_pos (outside_iff.2 ⟨hoverhead, hpadding⟩)]

/-- A symbol fails a check exactly if it is not admissible. -/
theorem exists_fails_iff :
    (∃ fault, sym.Fails containerNames fault) ↔ ¬sym.Admissible containerNames := by
  simp only [← fault?_eq_some_iff, ← fault?_eq_none_iff, ← Option.isSome_iff_exists,
    Option.isSome_iff_ne_none, ne_eq]

end Symbol

namespace Snapshot

variable {containers : List Container} {symbols : List Symbol} {fault : SnapshotFault}

/-- What is reported is about the first symbol that is not admissible. -/
theorem ofLists_eq_error_iff : ofLists containers symbols = .error fault ↔
    ∃ front sym back, symbols = front ++ sym :: back ∧
      (∀ other ∈ front, other.Admissible (containers.map Container.name)) ∧
      sym.Fails (containers.map Container.name) fault := by
  have hfirst : ofLists containers symbols = .error fault ↔
      symbols.findSome? (Symbol.fault? (containers.map Container.name)) = some fault := by
    rw [ofLists]
    cases symbols.findSome? (Symbol.fault? (containers.map Container.name)) with
    | some first => simp
    | none => simp
  simp only [hfirst, List.findSome?_eq_some_iff, Symbol.fault?_eq_some_iff,
    Symbol.fault?_eq_none_iff]
  constructor
  · rintro ⟨front, sym, back, hsplit, hfails, hfront⟩
    exact ⟨front, sym, back, hsplit, hfront, hfails⟩
  · rintro ⟨front, sym, back, hsplit, hfront, hfails⟩
    exact ⟨front, sym, back, hsplit, hfails, hfront⟩

/-- A snapshot is accepted exactly if all its symbols are admissible, and keeps its containers and
symbols as they are. Otherwise the first check is reported that the first symbol fails of those that
are not. -/
theorem ofLists_accepts_or_blames (containers : List Container) (symbols : List Symbol) :
    let containerNames := containers.map Container.name
    ((∃ snapshot, ofLists containers symbols = .ok snapshot) ↔
        ∀ sym ∈ symbols, sym.Admissible containerNames) ∧
      (∀ snapshot, ofLists containers symbols = .ok snapshot →
        snapshot.containers = containers ∧ snapshot.symbols = symbols) ∧
      (∀ fault, ofLists containers symbols = .error fault ↔
        ∃ front sym back, symbols = front ++ sym :: back ∧
          (∀ other ∈ front, other.Admissible containerNames) ∧ sym.Fails containerNames fault) ∧
      ∀ sym : Symbol,
        (∃ fault, sym.Fails containerNames fault) ↔ ¬sym.Admissible containerNames := by
  intro containerNames
  refine ⟨?_, fun snapshot hsnapshot => ?_, fun fault => ofLists_eq_error_iff,
    fun sym => Symbol.exists_fails_iff⟩
  · simp only [ofLists_eq_ok_iff, exists_and_left, exists_eq, and_true]
    rfl
  · -- what is accepted is made of the two lists as they are
    obtain ⟨-, rfl⟩ := ofLists_eq_ok_iff.1 hsnapshot
    exact ⟨rfl, rfl⟩

/-- Overhead may have any padding, but has aliases as all symbols do. The symbol after it has three
faults, which are not looked at. -/
example :
    let gap : Symbol :=
      { containerName := "lib", sectionName := ".text", size := 4, padding := -1
        fullName := "Overhead: gap" }
    ofLists [⟨"lib", "", []⟩]
        [gap, { gap with fullName := "Overhead: rest", numAliases := 0 },
          { gap with containerName := "none", fullName := "main", numAliases := 0 }] =
      .error (.noAliases "Overhead: rest") := by
  rfl

end Snapshot

end BuildScope
