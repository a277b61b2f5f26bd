import BuildScope.Proofs.Except
import BuildScope.Snapshot.Text

/-!
# Admission of Snapshots

A snapshot is accepted if each of its symbols is admissible.

* `Snapshot.ofLists_eq_ok_iff`: which containers and symbols make a snapshot.
* `Snapshot.ofDocument_eq_ok_iff`: which documents do.
-/

namespace BuildScope.Snapshot

/-- The symbols of a snapshot are accepted with its containers. -/
def IsAccepted (snapshot : Snapshot) : Prop :=
  ∃ parts, ofLists snapshot.containers snapshot.symbols = .ok parts

variable {containers : List Container} {symbols : List Symbol} {snapshot : Snapshot}

/-- No symbol has a fault exactly if all are admissible. -/
theorem findSome?_fault?_eq_none_iff {names : List String} :
    symbols.findSome? (Symbol.fault? names) = none ↔ ∀ sym ∈ symbols, sym.Admissible names := by
  simp only [List.findSome?_eq_none_iff, Symbol.fault?_eq_none_iff]

/-- A snapshot is made of admissible symbols, and keeps them and the containers as they are. -/
theorem ofLists_eq_ok_iff :
    ofLists containers symbols = .ok snapshot ↔
      (∀ sym ∈ symbols, sym.Admissible (containers.map Container.name)) ∧
        snapshot = { containers, symbols } := by
  rw [ofLists, ← findSome?_fault?_eq_none_iff]
  cases symbols.findSome? (Symbol.fault? (containers.map Container.name)) with
  | some fault => simp
  | none => simp [eq_comm]

/-- A snapshot is accepted exactly if its symbols are admissible. -/
theorem isAccepted_iff :
    snapshot.IsAccepted ↔
      ∀ sym ∈ snapshot.symbols, sym.Admissible (snapshot.containers.map Container.name) := by
  simp only [IsAccepted, ofLists_eq_ok_iff, exists_and_left, exists_eq, and_true]

instance (snapshot : Snapshot) : Decidable snapshot.IsAccepted :=
  decidable_of_iff _ (findSome?_fault?_eq_none_iff.trans isAccepted_iff.symm)

/-- The snapshot of a document is what a reader finds there, if that is accepted. -/
theorem ofDocument_eq_ok_iff {document : Text.Document} :
    ofDocument document = .ok snapshot ↔
      reader.ofDocument document = .ok snapshot ∧ snapshot.IsAccepted := by
  simp only [ofDocument, Except.bind_eq_ok, Except.mapError_eq_ok, ofLists_eq_ok_iff,
    isAccepted_iff]
  constructor
  · rintro ⟨parts, hparts, _, ⟨hsymbols, rfl⟩, h⟩
    cases h
    exact ⟨hparts, hsymbols⟩
  · rintro ⟨hparts, hsymbols⟩
    exact ⟨snapshot, hparts, _, ⟨hsymbols, rfl⟩, rfl⟩

end BuildScope.Snapshot
