import BuildScope.Proofs.Pairing.ByRank

/-!
# Queues Serve by Rank

The queues that pairing by key works with, related to ranks. A queue starts as the line of its key
and loses the member in front whenever a member of the second list comes for it, so that the member
of rank `n` is served by the one of rank `n`.

* `KeyQueues.queue_ofList`: the queue of a key holds the members with that key.
* `Pairing.byKey_eq_byRank`: pairing by key pairs what has the same key and rank.
-/

namespace BuildScope

open Pairing

variable {α κ : Type} [BEq κ] [Hashable κ]

/-- The queues after whoever is in front under a key has left. -/
def KeyQueues.serve (queues : KeyQueues κ α) : Option κ → KeyQueues κ α
  | none => queues
  | some k =>
    match queues.queue k with
    | [] => queues
    | _ :: rest => queues.setQueue k rest

namespace Pairing

theorem Walk.queues_step (key : α → Option κ) (walk : Walk κ α) (a : α) :
    (walk.step key a).queues = walk.queues.serve (key a) := by
  unfold step KeyQueues.serve
  cases key a with
  | none => rfl
  | some k => cases hq : walk.queues.queue k <;> simp [hq]

/-- A member is paired with whoever is in front of the queue of its key. -/
theorem Walk.pairs_step (key : α → Option κ) (walk : Walk κ α) (a : α) :
    (walk.step key a).pairs =
      ((partner? key walk.queues.queue (a, 0)).map (·, a)).toList ++ walk.pairs := by
  unfold step
  cases hk : key a with
  | none => simp [partner?, hk]
  | some k => cases hq : walk.queues.queue k <;> simp [partner?, hk, hq]

/-- A member stays unpaired if the queue of its key is empty. -/
theorem Walk.unpaired_step (key : α → Option κ) (walk : Walk κ α) (a : α) :
    (walk.step key a).unpaired =
      (if (partner? key walk.queues.queue (a, 0)).isNone then [a] else []) ++ walk.unpaired := by
  unfold step
  cases hk : key a with
  | none => simp [partner?, hk]
  | some k => cases hq : walk.queues.queue k <;> simp [partner?, hk, hq]

/-- Let the last member of the first list that has not been looked at have its turn: it goes if its
queue is empty. -/
def release (key : α → Option κ) (b : α) (state : KeyQueues κ α × List α) :
    KeyQueues κ α × List α :=
  match key b with
  | none => (state.1, b :: state.2)
  | some k =>
    match state.1.queue k with
    | [] => state
    | _ :: rest => (state.1.setQueue k rest, b :: state.2)

theorem fst_release (key : α → Option κ) (b : α) (state : KeyQueues κ α × List α) :
    (release key b state).1 = state.1.serve (key b) := by
  unfold release KeyQueues.serve
  cases key b with
  | none => rfl
  | some k => cases hq : state.1.queue k <;> simp [hq]

/-- Who still waits is found by looking at the members from the end. -/
theorem waiting_eq_foldr (key : α → Option κ) (queues : KeyQueues κ α) (members : List α) :
    waiting key queues members = (members.foldr (release key) (queues, [])).2 := rfl

end Pairing

variable [LawfulBEq κ] {key : α → Option κ}

/-- The queue of a key holds the members with that key, in order. -/
theorem KeyQueues.queue_ofList (key : α → Option κ) (members : List α) (k : κ) :
    (ofList key members : KeyQueues κ α).queue k = withKey key (some k) members := by
  induction members with
  | nil => simp [ofList, queue]
  | cons a members ih =>
    rw [withKey_cons, ← ih, ofList, List.foldr_cons]
    cases hk : key a with
    | none => simp [ofList]
    | some k' => by_cases h : k' = k <;> simp [queue_setQueue, ofList, h]

/-- When somebody is served, the queue of the key moves up and the others stay. -/
theorem KeyQueues.queue_serve (queues : KeyQueues κ α) (a : α) :
    (queues.serve (key a)).queue = advance key a queues.queue := by
  funext k
  unfold serve advance
  cases key a with
  | none => simp
  | some k' =>
    by_cases h : k' = k
    · subst h
      cases hq : queues.queue k' <;> simp [hq, queue_setQueue]
    · cases hq : queues.queue k' <;> simp [hq, h, queue_setQueue]

namespace Pairing

/-! ## The walk through the second list -/

/-- A walk takes from each queue as many members as there are with its key. -/
theorem queue_foldl_step (walk : Walk κ α) (members : List α) (k : κ) :
    (members.foldl (Walk.step key) walk).queues.queue k =
      (walk.queues.queue k).drop (withKey key (some k) members).length := by
  induction members generalizing walk with
  | nil => simp
  | cons a members ih =>
    rw [List.foldl_cons, ih, Walk.queues_step, KeyQueues.queue_serve, advance, List.drop_drop,
      withKey_cons]
    split <;> simp [Nat.add_comm]

/-- A walk pairs each member with whoever stands at its rank. -/
theorem pairs_foldl_step (walk : Walk κ α) (members : List α) :
    (members.foldl (Walk.step key) walk).pairs =
      (partnered key walk.queues.queue members).reverse ++ walk.pairs := by
  induction members generalizing walk with
  | nil => simp [partnered]
  | cons a members ih =>
    rw [List.foldl_cons, ih, Walk.pairs_step, Walk.queues_step, KeyQueues.queue_serve,
      partnered_cons]
    cases partner? key walk.queues.queue (a, 0) <;> simp

/-- A walk passes by the members at whose rank nobody stands. -/
theorem unpaired_foldl_step (walk : Walk κ α) (members : List α) :
    (members.foldl (Walk.step key) walk).unpaired =
      (unpartnered key walk.queues.queue members).reverse ++ walk.unpaired := by
  induction members generalizing walk with
  | nil => simp [unpartnered]
  | cons a members ih =>
    rw [List.foldl_cons, ih, Walk.unpaired_step, Walk.queues_step, KeyQueues.queue_serve,
      unpartnered_cons]
    split <;> simp

/-! ## Who still waits -/

/-- Looking at members from the end takes from each queue as many as there are with its key. -/
theorem queue_foldr_release (queues : KeyQueues κ α) (members : List α) (k : κ) :
    (members.foldr (release key) (queues, [])).1.queue k =
      (queues.queue k).drop (withKey key (some k) members).length := by
  induction members with
  | nil => simp
  | cons b members ih =>
    rw [List.foldr_cons, fst_release, KeyQueues.queue_serve, advance, ih, List.drop_drop,
      withKey_cons]
    split <;> simp

/-- A member still waits if it never did, or if fewer members with its key come after it than still
wait. -/
theorem waiting_cons (queues : KeyQueues κ α) (b : α) (members : List α) :
    waiting key queues (b :: members) =
      (if ∀ k, key b = some k → (withKey key (some k) members).length < (queues.queue k).length
        then [b] else []) ++ waiting key queues members := by
  rw [waiting_eq_foldr, List.foldr_cons, waiting_eq_foldr]
  cases hk : key b with
  | none => simp [release, hk]
  | some k =>
    -- the members behind have taken the front of the queue
    have hqueue : (members.foldr (release key) (queues, [])).1.queue k =
        (queues.queue k).drop (withKey key (some k) members).length :=
      queue_foldr_release queues members k
    simp only [release, hk, Option.some.injEq, forall_eq']
    split
    case h_1 hnil =>
      rw [hqueue, List.drop_eq_nil_iff] at hnil
      rw [if_neg (Nat.not_lt.2 hnil), List.nil_append]
    case h_2 hcons =>
      have hpos := congrArg List.length hcons
      rw [hqueue, List.length_drop, List.length_cons] at hpos
      rw [if_pos (by omega), List.singleton_append]

/-- If the members that still wait are those beyond a line, under each key, they are the members at
whose rank nobody stands. -/
theorem waiting_eq_unpartnered (queues : KeyQueues κ α) (lines : κ → List α) (members : List α)
    (h : ∀ k, min (queues.queue k).length (withKey key (some k) members).length =
      (withKey key (some k) members).length - (lines k).length) :
    waiting key queues members = unpartnered key lines members := by
  induction members generalizing lines with
  | nil => rfl
  | cons b members ih =>
    have hrest : ∀ k, min (queues.queue k).length (withKey key (some k) members).length =
        (withKey key (some k) members).length - (advance key b lines k).length := by
      intro k
      have hk := h k
      rw [withKey_cons] at hk
      rw [advance, List.length_drop]
      by_cases hb : key b == some k
      · rw [if_pos hb, List.length_cons] at hk
        rw [if_pos hb]
        omega
      · rw [if_neg hb] at hk
        rw [if_neg hb]
        omega
    rw [waiting_cons, unpartnered_cons, ih (advance key b lines) hrest]
    congr 1
    cases hb : key b with
    | none => simp [partner?, hb]
    | some k =>
      have hk := h k
      rw [withKey_cons, if_pos (by simp [hb]), List.length_cons] at hk
      -- `b` is the first with its key, so it waits exactly if its line is empty
      simp only [partner?, hb, Option.some.injEq, forall_eq', Option.bind_some,
        Option.isNone_iff_eq_none, List.getElem?_eq_none_iff]
      congr 1
      apply propext
      omega

/-- Pairing by key pairs the members that have the same key and rank. -/
theorem byKey_eq_byRank (key : α → Option κ) (before after : List α) :
    byKey key before after = byRank key before after := by
  have hqueue : (KeyQueues.ofList key before : KeyQueues κ α).queue = linesOf key before :=
    funext (KeyQueues.queue_ofList key before)
  have hwaiting : waiting key
      (after.foldl (Walk.step key) { queues := .ofList key before }).queues before =
      unpartnered key (linesOf key after) before := by
    apply waiting_eq_unpartnered
    intro k
    rw [queue_foldl_step, hqueue, linesOf, linesOf, List.length_drop]
    omega
  simp [byKey, byRank, hwaiting, pairs_foldl_step, unpaired_foldl_step, hqueue]

end Pairing

end BuildScope
