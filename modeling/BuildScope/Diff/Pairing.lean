import Std.Data.HashMap

/-!
# Pairing by Key

Two lists are paired by a key: the members of the first list wait in a queue for each key, and the
members of the second, in their order, each take the one that has waited longest under their key.
Members without a key are never paired.

* `Pairing.byKey`: the pairs, and what is left of either list in its order.
-/

namespace BuildScope

variable {α κ : Type} [BEq κ] [Hashable κ]

/-- Pairs made of two lists, and what is left of them. -/
structure Pairing (α : Type) where
  /-- Pairs, in the order of the second list. -/
  pairs : List (α × α)
  /-- Members of the first list that are in no pair, in order. -/
  before : List α
  /-- Members of the second list that are in no pair, in order. -/
  after : List α
  deriving Repr

/-- Queues of members, one for each key. -/
abbrev KeyQueues (κ α : Type) [BEq κ] [Hashable κ] := Std.HashMap κ (List α)

namespace KeyQueues

/-- The queue of a key. -/
def queue (queues : KeyQueues κ α) (k : κ) : List α :=
  queues.getD k []

/-- Replace the queue of a key. -/
def setQueue (queues : KeyQueues κ α) (k : κ) (queue : List α) : KeyQueues κ α :=
  queues.insert k queue

/-- The queues of a list, the first members in front. -/
def ofList (key : α → Option κ) (members : List α) : KeyQueues κ α :=
  members.foldr
    (fun a queues =>
      match key a with
      | none => queues
      | some k => queues.setQueue k (a :: queues.queue k))
    ∅

/-- Only the queue of the key itself is replaced. -/
theorem queue_setQueue [LawfulBEq κ] (queues : KeyQueues κ α) (k k' : κ) (q : List α) :
    (queues.setQueue k q).queue k' = if k == k' then q else queues.queue k' := by
  simp [queue, setQueue, Std.HashMap.getD_insert]

end KeyQueues

namespace Pairing

/-- A walk through the second list. -/
structure Walk (κ α : Type) [BEq κ] [Hashable κ] where
  /-- Who still waits. -/
  queues : KeyQueues κ α
  /-- Pairs made so far, last first. -/
  pairs : List (α × α) := []
  /-- Members passed that found nobody, last first. -/
  unpaired : List α := []

/-- Let one member of the second list take whoever has waited longest under its key. -/
def Walk.step (key : α → Option κ) (walk : Walk κ α) (a : α) : Walk κ α :=
  match key a with
  | none => { walk with unpaired := a :: walk.unpaired }
  | some k =>
    match walk.queues.queue k with
    | [] => { walk with unpaired := a :: walk.unpaired }
    | b :: rest =>
      { walk with queues := walk.queues.setQueue k rest, pairs := (b, a) :: walk.pairs }

/-- Members of the first list that still wait, or never did, in order. Since queues are served from
the front, those that wait under a key are the last ones with that key. -/
def waiting (key : α → Option κ) (queues : KeyQueues κ α) (members : List α) : List α :=
  (members.foldr
    (fun b (queues, left) =>
      match key b with
      | none => (queues, b :: left)
      | some k =>
        match queues.queue k with
        | [] => (queues, left)
        | _ :: rest => (queues.setQueue k rest, b :: left))
    (queues, [])).2

/-- Pair the members of two lists by a key. -/
def byKey (key : α → Option κ) (before after : List α) : Pairing α :=
  let walk := after.foldl (Walk.step key) { queues := .ofList key before }
  { pairs := walk.pairs.reverse
    before := waiting key walk.queues before
    after := walk.unpaired.reverse }

end Pairing

end BuildScope
