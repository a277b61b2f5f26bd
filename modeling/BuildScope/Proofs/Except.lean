import Mathlib.Data.List.Forall2

/-!
# Computations That Succeed

What is known of the steps of a computation that has led to a result.

* `Except.bind_eq_ok`, `Except.mapError_eq_ok`: the steps before the result have succeeded too.
* `Except.mapM_eq_ok`: every member of a list has a result, in the order of the list.
* `Except.mapM_eq_error`: the first member without a result is to blame.
* `Except.filterM_eq_ok`: every member of a list has an answer, which decides whether it is kept.
-/

namespace Except

variable {ε ε' α β : Type}

theorem bind_eq_ok {x : Except ε α} {f : α → Except ε β} {b : β} :
    (x >>= f) = .ok b ↔ ∃ a, x = .ok a ∧ f a = .ok b := by
  cases x with
  | error e => simp [bind, Except.bind]
  | ok a => simp [bind, Except.bind]

theorem bind_eq_error {x : Except ε α} {f : α → Except ε β} {e : ε} :
    (x >>= f) = .error e ↔ x = .error e ∨ ∃ a, x = .ok a ∧ f a = .error e := by
  cases x with
  | error e' => simp [bind, Except.bind]
  | ok a => simp [bind, Except.bind]

theorem pure_eq_ok {a b : α} : (pure a : Except ε α) = .ok b ↔ a = b := by
  simp [pure, Except.pure]

/-- A check succeeds if its condition holds. -/
theorem check_eq_ok {p : Prop} [Decidable p] {a b : α} {e : ε} :
    (if p then .ok a else .error e) = Except.ok b ↔ p ∧ a = b := by
  by_cases hp : p
  · simp [hp]
  · simp [hp]

/-- A check fails if its condition does not hold. -/
theorem check_eq_error {p : Prop} [Decidable p] {a : α} {e e' : ε} :
    (if p then .ok a else .error e) = Except.error e' ↔ ¬p ∧ e = e' := by
  by_cases hp : p
  · simp [hp]
  · simp [hp]

theorem mapError_eq_ok {x : Except ε α} {f : ε → ε'} {a : α} :
    x.mapError f = .ok a ↔ x = .ok a := by
  cases x with
  | error e => simp [Except.mapError]
  | ok b => simp [Except.mapError]

/-- A result that is changed was there before, so that faults stay as they are. -/
theorem map_eq_error {x : Except ε α} {f : α → β} {e : ε} :
    x.map f = .error e ↔ x = .error e := by
  cases x with
  | error e' => simp [Except.map]
  | ok a => simp [Except.map]

/-- Mapping over a list succeeds exactly if it does for each member. -/
theorem mapM_eq_ok {f : α → Except ε β} {l : List α} {l' : List β} :
    l.mapM f = .ok l' ↔ List.Forall₂ (fun a b => f a = .ok b) l l' := by
  induction l generalizing l' with
  | nil =>
    rw [List.mapM_nil, pure_eq_ok, List.forall₂_nil_left_iff, eq_comm]
  | cons a l ih =>
    rw [List.mapM_cons, bind_eq_ok, List.forall₂_cons_left_iff]
    simp only [bind_eq_ok, pure_eq_ok, ih]
    constructor
    · rintro ⟨b, hb, l', hl', rfl⟩
      exact ⟨b, l', hb, hl', rfl⟩
    · rintro ⟨b, l', hb, hl', rfl⟩
      exact ⟨b, hb, l', hl', rfl⟩

/-- Mapping over a list succeeds if every member has a result. -/
theorem exists_mapM_eq_ok {f : α → Except ε β} {l : List α} :
    (∃ l', l.mapM f = .ok l') ↔ ∀ a ∈ l, ∃ b, f a = .ok b := by
  simp only [mapM_eq_ok]
  induction l with
  | nil => simp
  | cons a l ih =>
    rw [List.forall_mem_cons, ← ih]
    constructor
    · rintro ⟨l', hl'⟩
      obtain ⟨b, rest, hb, hrest, rfl⟩ := List.forall₂_cons_left_iff.1 hl'
      exact ⟨⟨b, hb⟩, rest, hrest⟩
    · rintro ⟨⟨b, hb⟩, rest, hrest⟩
      exact ⟨b :: rest, .cons hb hrest⟩

/-- Mapping over a list fails as it does for the first member for which it fails. -/
theorem mapM_eq_error {f : α → Except ε β} {l : List α} {e : ε} :
    l.mapM f = .error e ↔ ∃ front a back, l = front ++ a :: back ∧
      (∀ b ∈ front, ∃ c, f b = .ok c) ∧ f a = .error e := by
  induction l with
  | nil =>
    constructor
    · rintro ⟨⟩
    · rintro ⟨front, a, back, hsplit, -⟩
      simp at hsplit
  | cons a l ih =>
    rw [List.mapM_cons, bind_eq_error]
    constructor
    · -- the first item fails, or one behind it
      rintro (ha | ⟨b, hb, hrest⟩)
      · exact ⟨[], a, l, rfl, by simp, ha⟩
      · rw [bind_eq_error, ih] at hrest
        obtain ⟨front, a', back, rfl, hfront, ha'⟩ | ⟨_, -, ⟨⟩⟩ := hrest
        exact ⟨a :: front, a', back, rfl, List.forall_mem_cons.2 ⟨⟨b, hb⟩, hfront⟩, ha'⟩
    · rintro ⟨front, a', back, hsplit, hfront, ha'⟩
      cases front with
      | nil =>
        cases hsplit
        exact .inl ha'
      | cons _ front =>
        cases hsplit
        obtain ⟨⟨b, hb⟩, hfront⟩ := List.forall_mem_cons.1 hfront
        refine .inr ⟨b, hb, ?_⟩
        rw [bind_eq_error, ih]
        exact .inl ⟨front, a', back, rfl, hfront, ha'⟩

/-- Every result of mapping over a list is the result of a member. -/
theorem exists_of_mem_mapM {f : α → Except ε β} {l : List α} {l' : List β}
    (h : l.mapM f = .ok l') {b : β} (hb : b ∈ l') : ∃ a ∈ l, f a = .ok b := by
  have hpaired := mapM_eq_ok.1 h
  clear h
  induction hpaired with
  | nil => cases hb
  | cons hab _ ih =>
    rcases List.mem_cons.1 hb with rfl | hb
    · exact ⟨_, List.mem_cons_self .., hab⟩
    · obtain ⟨a, ha, hab⟩ := ih hb
      exact ⟨a, List.mem_cons_of_mem _ ha, hab⟩

/-- Every member of a list that is mapped over has a result. -/
theorem exists_of_mapM_of_mem {f : α → Except ε β} {l : List α} {l' : List β}
    (h : l.mapM f = .ok l') {a : α} (ha : a ∈ l) : ∃ b ∈ l', f a = .ok b := by
  have hpaired := mapM_eq_ok.1 h
  clear h
  induction hpaired with
  | nil => cases ha
  | cons hab _ ih =>
    rcases List.mem_cons.1 ha with rfl | ha
    · exact ⟨_, List.mem_cons_self .., hab⟩
    · obtain ⟨b, hb, hab⟩ := ih ha
      exact ⟨b, List.mem_cons_of_mem _ hb, hab⟩

private theorem filterAuxM_eq_ok {f : α → Except ε Bool} {l kept l' : List α} :
    l.filterAuxM f kept = .ok l' ↔
      (∀ a ∈ l, ∃ b, f a = .ok b) ∧
        l' = (l.filter fun a => (f a).toOption.getD false).reverse ++ kept := by
  induction l generalizing kept with
  | nil =>
    rw [List.filterAuxM, pure_eq_ok, eq_comm]
    simp
  | cons a l ih =>
    rw [List.filterAuxM, bind_eq_ok]
    simp only [ih, List.forall_mem_cons]
    constructor
    · rintro ⟨b, hb, hall, rfl⟩
      refine ⟨⟨⟨b, hb⟩, hall⟩, ?_⟩
      cases b <;> simp [hb, Except.toOption]
    · rintro ⟨⟨⟨b, hb⟩, hall⟩, rfl⟩
      refine ⟨b, hb, hall, ?_⟩
      cases b <;> simp [hb, Except.toOption]

/-- Filtering a list succeeds exactly if each member has an answer, and keeps those that say so. -/
theorem filterM_eq_ok {f : α → Except ε Bool} {l l' : List α} :
    l.filterM f = .ok l' ↔
      (∀ a ∈ l, ∃ b, f a = .ok b) ∧ l' = l.filter fun a => (f a).toOption.getD false := by
  rw [List.filterM, bind_eq_ok]
  simp only [filterAuxM_eq_ok, pure_eq_ok]
  constructor
  · rintro ⟨_, ⟨hall, rfl⟩, rfl⟩
    exact ⟨hall, by simp⟩
  · rintro ⟨hall, rfl⟩
    exact ⟨_, ⟨hall, rfl⟩, by simp⟩

/-- What holds of a result if there is one that passes a check. -/
theorem exists_of_any {x : Except ε α} {p : α → Bool} (h : x.toOption.any p) :
    ∃ a, x = .ok a ∧ p a := by
  cases x with
  | error e => cases h
  | ok a => exact ⟨a, rfl, h⟩

end Except
