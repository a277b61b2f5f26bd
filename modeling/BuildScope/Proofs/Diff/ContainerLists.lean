import BuildScope.Diff.Containers
import Mathlib.Data.List.Basic
import Mathlib.Data.List.Induction
import Std.Data.HashMap

/-!
# Container Lists Lined Up

Two lists of containers are lined up by name: each name has one delta, which stands where the name
first occurs, the new list before the old one, and has the last container of the name on either
side. A single walk through the two lists comes to the same. It remembers the place of each name,
overwrites a side of the delta that stands there, and appends a delta for a name it has not met.

* `ContainerDelta.LinesUp`: what the deltas of two lists of containers are.
* `Lineup.tells_ofContainers`: what the walk has collected.
* `ContainerDelta.map_name_filter_isAdded`: the names of added containers, and in the same way those
  of removed ones.
* `ContainerDelta.ofLists_linesUp`: the deltas of two lists are the only ones that line them up, and
  the walk finds them.
-/

namespace BuildScope

/-! ## First occurrences -/

section FirstOccurrences

variable {l : List String} {a : String}

/-- Only what has not occurred before adds to the list without repetitions. -/
private theorem eraseDups_append_singleton (l : List String) (a : String) :
    (l ++ [a]).eraseDups = if a ∈ l then l.eraseDups else l.eraseDups ++ [a] := by
  rw [List.eraseDups_append, List.removeAll]
  by_cases h : a ∈ l
  · simp [h]
  · simp [h, List.eraseDups_cons]

/-- Without repetitions, a list is in the order of the first occurrences. -/
private theorem pairwise_idxOf_eraseDups (l : List String) :
    l.eraseDups.Pairwise fun a b => l.idxOf a < l.idxOf b := by
  induction l using List.reverseRecOn with
  | nil => exact List.Pairwise.nil
  | append_singleton l a ih =>
    -- places do not change when something is added behind
    have hkept : l.eraseDups.Pairwise fun b c => (l ++ [a]).idxOf b < (l ++ [a]).idxOf c := by
      refine ih.imp_of_mem fun {b c} hb hc hlt => ?_
      rwa [List.idxOf_append_of_mem (List.mem_eraseDups.1 hb),
        List.idxOf_append_of_mem (List.mem_eraseDups.1 hc)]
    rw [eraseDups_append_singleton]
    split
    · exact hkept
    next hnew =>
      refine List.pairwise_append.2 ⟨hkept, List.pairwise_singleton _ _, fun b hb c hc => ?_⟩
      obtain rfl := List.mem_singleton.1 hc
      have hb := List.mem_eraseDups.1 hb
      rw [List.idxOf_append_of_mem hb, List.idxOf_append_of_notMem hnew]
      exact Nat.lt_add_right _ (List.idxOf_lt_length_iff.2 hb)

/-- It makes no difference whether members are left out before or after repetitions are. -/
private theorem eraseDups_filter (l : List String) (p : String → Bool) :
    (l.filter p).eraseDups = l.eraseDups.filter p := by
  -- by the last item, which is erased if it has occurred before
  induction l using List.reverseRecOn with
  | nil => rfl
  | append_singleton l a ih =>
    rw [eraseDups_append_singleton, List.filter_append]
    cases ha : p a with
    | false =>
      have hnone : [a].filter p = [] := by rw [List.filter_singleton, ha, cond_false]
      rw [hnone, List.append_nil, ih]
      split
      · rfl
      · rw [List.filter_append, hnone, List.append_nil]
    | true =>
      have hkept : [a].filter p = [a] := by rw [List.filter_singleton, ha, cond_true]
      have hmem : a ∈ l.filter p ↔ a ∈ l := by rw [List.mem_filter, and_iff_left ha]
      rw [hkept, eraseDups_append_singleton, ih]
      simp only [hmem]
      split
      · rfl
      · rw [List.filter_append, hkept]

end FirstOccurrences

namespace ContainerDelta

variable {before after : List Container} {name : String} {deltas : List ContainerDelta}

/-! ## Lists that are lined up -/

/-- A container is the last one of a name in a list, or no container has the name. -/
def IsLastNamed (containers : List Container) (name : String) : Option Container → Prop
  | none => ∀ container ∈ containers, container.name ≠ name
  | some container => container.name = name ∧ ∃ front back,
      containers = front ++ container :: back ∧ ∀ other ∈ back, other.name ≠ name

/-- The order in which names of an old and of a new list are lined up. -/
inductive Precedes (olds news : List String) (a b : String) : Prop
  /-- Names of the new list stand in the order in which they first occur there. -/
  | new (ha : a ∈ news) (hb : b ∈ news) (h : news.idxOf a < news.idxOf b)
  /-- They stand before the names that only the old list has. -/
  | newFirst (ha : a ∈ news) (hb : b ∉ news)
  /-- Those stand in the order in which they first occur in the old list. -/
  | old (ha : a ∉ news) (hb : b ∉ news) (h : olds.idxOf a < olds.idxOf b)

/-- Some deltas line up two lists of containers by name. -/
structure LinesUp (before after : List Container) (deltas : List ContainerDelta) : Prop where
  /-- The names are those of the two lists. -/
  mem_name_iff : ∀ name, name ∈ deltas.map ContainerDelta.name ↔
    name ∈ before.map Container.name ∨ name ∈ after.map Container.name
  /-- No name occurs twice. -/
  nodup_name : (deltas.map ContainerDelta.name).Nodup
  /-- Names stand in the order of their first occurrences, those of the new list first. -/
  pairwise_name : deltas.Pairwise fun delta other =>
    Precedes (before.map Container.name) (after.map Container.name) delta.name other.name
  /-- The old side is the last container of the name in the old list. -/
  before_isLast : ∀ delta ∈ deltas, IsLastNamed before delta.name delta.before
  /-- The new side is the last container of the name in the new list. -/
  after_isLast : ∀ delta ∈ deltas, IsLastNamed after delta.name delta.after
  /-- One of the sides is there. -/
  hasSide : ∀ delta ∈ deltas, delta.before.isSome ∨ delta.after.isSome
  /-- A container counts as added if the old list does not have its name. -/
  isAdded_iff : ∀ delta ∈ deltas, delta.isAdded ↔ delta.name ∉ before.map Container.name
  /-- A container counts as removed if the new list does not have its name. -/
  isRemoved_iff : ∀ delta ∈ deltas, delta.isRemoved ↔ delta.name ∉ after.map Container.name
  /-- Labels are the places in decimal. -/
  shortName_eq : ∀ (place : Nat) (delta : ContainerDelta), deltas[place]? = some delta →
    delta.shortName = String.ofList (Nat.toDigits 10 place)

theorem isLastNamed_iff {containers : List Container} {last : Option Container} :
    IsLastNamed containers name last ↔ lastNamed? containers name = last := by
  cases last with
  | none => simp [IsLastNamed, lastNamed?]
  | some container =>
    rw [IsLastNamed, lastNamed?, List.find?_eq_some_iff_append, beq_iff_eq]
    refine and_congr_right fun _ => ?_
    constructor
    · rintro ⟨front, back, rfl, hback⟩
      refine ⟨back.reverse, front.reverse, by simp, fun other hother => ?_⟩
      simpa using hback other (List.mem_reverse.1 hother)
    · rintro ⟨back, front, heq, hback⟩
      refine ⟨front.reverse, back.reverse, ?_, fun other hother => ?_⟩
      · rw [← List.reverse_reverse containers, heq]
        simp
      · simpa using hback other (List.mem_reverse.1 hother)

theorem lastNamed?_eq_none_iff {containers : List Container} :
    lastNamed? containers name = none ↔ name ∉ containers.map Container.name := by
  rw [← isLastNamed_iff, IsLastNamed, List.mem_map]
  exact ⟨fun h ⟨container, hmem, heq⟩ => h container hmem heq,
    fun h container hmem heq => h ⟨container, hmem, heq⟩⟩

/-- A container that is appended to a list is the last one of its name. -/
theorem lastNamed?_append_singleton (containers : List Container) (container : Container)
    (name : String) : lastNamed? (containers ++ [container]) name =
      if container.name = name then some container else lastNamed? containers name := by
  rw [lastNamed?, List.reverse_append, List.reverse_singleton, List.singleton_append,
    List.find?_cons]
  split
  next h => rw [if_pos (beq_iff_eq.1 h)]
  next h =>
    rw [beq_eq_false_iff_ne] at h
    rw [if_neg h, lastNamed?]

/-- Names are lined up in the order of their first occurrences in the two lists, one after the
other. -/
theorem precedes_iff {olds news : List String} {a b : String} :
    Precedes olds news a b ↔ (news ++ olds).idxOf a < (news ++ olds).idxOf b := by
  -- a name of both lists has its place in the new one
  by_cases ha : a ∈ news
  · have ha' := List.idxOf_lt_length_iff.2 ha
    by_cases hb : b ∈ news
    · rw [List.idxOf_append_of_mem ha, List.idxOf_append_of_mem hb]
      constructor
      · rintro (⟨-, -, h⟩ | ⟨-, h⟩ | ⟨h, -, -⟩)
        · exact h
        · exact absurd hb h
        · exact absurd ha h
      · exact .new ha hb
    · rw [List.idxOf_append_of_mem ha, List.idxOf_append_of_notMem hb]
      exact ⟨fun _ => Nat.lt_add_right _ ha', fun _ => .newFirst ha hb⟩
  · by_cases hb : b ∈ news
    · have hb' := List.idxOf_lt_length_iff.2 hb
      rw [List.idxOf_append_of_notMem ha, List.idxOf_append_of_mem hb]
      constructor
      · rintro (⟨h, -, -⟩ | ⟨-, h⟩ | ⟨-, h, -⟩)
        · exact absurd h ha
        · exact absurd hb h
        · exact absurd hb h
      · omega
    · rw [List.idxOf_append_of_notMem ha, List.idxOf_append_of_notMem hb]
      constructor
      · rintro (⟨h, -, -⟩ | ⟨h, -⟩ | ⟨-, -, h⟩)
        · exact absurd h ha
        · exact absurd h ha
        · exact Nat.add_lt_add_left h _
      · exact fun h => .old ha hb (Nat.lt_of_add_lt_add_left h)

theorem not_precedes_self {olds news : List String} {a : String} : ¬ Precedes olds news a a := by
  rw [precedes_iff]
  exact Nat.lt_irrefl _

/-! ## The deltas of two lists -/

/-- The delta of a name, before it is labelled. -/
def ofName (before after : List Container) (name : String) : ContainerDelta :=
  { name, before := lastNamed? before name, after := lastNamed? after name }

theorem mem_names_iff : name ∈ names before after ↔
    name ∈ before.map Container.name ∨ name ∈ after.map Container.name := by
  rw [names, List.mem_eraseDups, List.map_append, List.mem_append, or_comm]

theorem pairwise_names (before after : List Container) : (names before after).Pairwise
    (Precedes (before.map Container.name) (after.map Container.name)) := by
  refine (pairwise_idxOf_eraseDups ((after ++ before).map Container.name)).imp fun hlt => ?_
  rwa [precedes_iff, ← List.map_append]

theorem nodup_names (before after : List Container) : (names before after).Nodup := by
  refine (pairwise_names before after).imp ?_
  rintro a _ hprecedes rfl
  exact not_precedes_self hprecedes

theorem getElem?_ofLists (before after : List Container) (place : Nat) :
    (ofLists before after)[place]? = (names before after)[place]?.map fun name =>
      { ofName before after name with shortName := toString place } := by
  simp [ofLists, number, ofName, List.getElem?_zipIdx]
  rfl

theorem map_name_ofLists (before after : List Container) :
    (ofLists before after).map ContainerDelta.name = names before after := by
  rw [ofLists, map_name_number, List.map_map]
  exact List.map_id _

/-- Which names are lined up, and in which order, leaves no choice. -/
theorem LinesUp.map_name_eq (h : LinesUp before after deltas) :
    deltas.map ContainerDelta.name = names before after := by
  refine List.Perm.eq_of_pairwise ?_ (List.pairwise_map.2 h.pairwise_name)
    (pairwise_names before after) ?_
  · intro a b _ _ hab hba
    rw [precedes_iff] at hab hba
    omega
  · rw [List.perm_ext_iff_of_nodup h.nodup_name (nodup_names before after)]
    intro name
    rw [h.mem_name_iff, mem_names_iff]

/-- Neither do the sides and the labels. -/
theorem LinesUp.eq_ofLists (h : LinesUp before after deltas) : deltas = ofLists before after := by
  apply List.ext_getElem?
  intro place
  rw [getElem?_ofLists, ← h.map_name_eq, List.getElem?_map, Option.map_map]
  cases hdelta : deltas[place]? with
  | none => rfl
  | some delta =>
    have hmem : delta ∈ deltas := List.mem_of_getElem? hdelta
    have hbefore := isLastNamed_iff.1 (h.before_isLast delta hmem)
    have hafter := isLastNamed_iff.1 (h.after_isLast delta hmem)
    have hlabel := h.shortName_eq place delta hdelta
    obtain ⟨name, shortName, old, new⟩ := delta
    dsimp only at hbefore hafter hlabel
    rw [Option.map_some, Function.comp_apply, ofName, hbefore, hafter, hlabel]
    rfl

theorem linesUp_ofLists (before after : List Container) :
    LinesUp before after (ofLists before after) := by
  have hsides : ∀ delta ∈ ofLists before after, delta.name ∈ names before after ∧
      delta.before = lastNamed? before delta.name ∧ delta.after = lastNamed? after delta.name := by
    intro delta hdelta
    obtain ⟨place, hplace⟩ := List.mem_iff_getElem?.1 hdelta
    rw [getElem?_ofLists] at hplace
    obtain ⟨name, hname, rfl⟩ := Option.map_eq_some_iff.1 hplace
    exact ⟨List.mem_of_getElem? hname, rfl, rfl⟩
  constructor
  · intro name
    rw [map_name_ofLists, mem_names_iff]
  · rw [map_name_ofLists]
    exact nodup_names before after
  · rw [← List.pairwise_map, map_name_ofLists]
    exact pairwise_names before after
  · exact fun delta hdelta => isLastNamed_iff.2 (hsides delta hdelta).2.1.symm
  · exact fun delta hdelta => isLastNamed_iff.2 (hsides delta hdelta).2.2.symm
  · intro delta hdelta
    obtain ⟨hname, hbefore, hafter⟩ := hsides delta hdelta
    -- a name that is lined up is one of either list
    rw [hbefore, hafter, Option.isSome_iff_ne_none, Option.isSome_iff_ne_none, ne_eq, ne_eq,
      lastNamed?_eq_none_iff, lastNamed?_eq_none_iff, not_not, not_not, ← mem_names_iff]
    exact hname
  · intro delta hdelta
    rw [isAdded, (hsides delta hdelta).2.1, Option.isNone_iff_eq_none, lastNamed?_eq_none_iff]
  · intro delta hdelta
    rw [isRemoved, (hsides delta hdelta).2.2, Option.isNone_iff_eq_none, lastNamed?_eq_none_iff]
  · intro place delta hplace
    rw [getElem?_ofLists] at hplace
    obtain ⟨name, -, rfl⟩ := Option.map_eq_some_iff.1 hplace
    rfl

/-! ## Names of one list only -/

/-- The names of a list that another one does not have, in the order of their first occurrences. -/
def namesOnlyIn (containers others : List Container) : List String :=
  ((containers.map Container.name).filter fun name =>
    !(others.map Container.name).contains name).eraseDups

theorem mem_namesOnlyIn_iff {containers others : List Container} :
    name ∈ namesOnlyIn containers others ↔
      name ∈ containers.map Container.name ∧ name ∉ others.map Container.name := by
  rw [namesOnlyIn, List.mem_eraseDups, List.mem_filter, Bool.not_eq_true', ← Bool.not_eq_true,
    List.contains_iff_mem]

private theorem filter_not_contains_self (l : List String) :
    l.filter (fun name => !l.contains name) = [] :=
  List.filter_eq_nil_iff.2 fun name hname => by simpa using hname

/-- The deltas without a container in one of the lists have the names that this list does not
have. -/
theorem map_name_filter {others : List Container} {side : ContainerDelta → Bool}
    (h : ∀ delta ∈ ofLists before after, side delta ↔ delta.name ∉ others.map Container.name) :
    ((ofLists before after).filter side).map ContainerDelta.name =
      ((after.map Container.name ++ before.map Container.name).filter fun name =>
        !(others.map Container.name).contains name).eraseDups := by
  have hside : ∀ delta ∈ ofLists before after,
      side delta = !(others.map Container.name).contains delta.name := by
    intro delta hdelta
    rw [Bool.eq_iff_iff, h delta hdelta, Bool.not_eq_true', ← Bool.not_eq_true,
      List.contains_iff_mem]
  rw [eraseDups_filter, ← List.map_append, ← names, ← map_name_ofLists, List.filter_map]
  exact congrArg _ (List.filter_congr hside)

/-- Containers that are added have the names of the new list only. -/
theorem map_name_filter_isAdded (before after : List Container) :
    ((ofLists before after).filter isAdded).map ContainerDelta.name = namesOnlyIn after before := by
  rw [map_name_filter (linesUp_ofLists before after).isAdded_iff, List.filter_append,
    filter_not_contains_self, List.append_nil, namesOnlyIn]

/-- Containers that are removed have the names of the old list only. -/
theorem map_name_filter_isRemoved (before after : List Container) :
    ((ofLists before after).filter isRemoved).map ContainerDelta.name =
      namesOnlyIn before after := by
  rw [map_name_filter (linesUp_ofLists before after).isRemoved_iff, List.filter_append,
    filter_not_contains_self, List.nil_append, namesOnlyIn]

end ContainerDelta

/-! ## A walk through both lists -/

/-- The containers of two lists that a walk has met so far. -/
structure Lineup where
  /-- A delta for each name. -/
  deltas : List ContainerDelta := []
  /-- The place of the delta of each name. -/
  places : Std.HashMap String Nat := ∅

namespace Lineup

open ContainerDelta (lastNamed?_append_singleton names nodup_names ofName mem_names_iff number)

/-- The next container of the walk is put into the delta of its name, and into a new delta at the
end if there is none. -/
def meet (put : Container → ContainerDelta → ContainerDelta) (lineup : Lineup)
    (container : Container) : Lineup :=
  match lineup.places[container.name]? with
  | some place => { lineup with deltas := lineup.deltas.modify place (put container) }
  | none =>
    { deltas := lineup.deltas ++
        [put container { name := container.name, before := none, after := none }]
      places := lineup.places.insert container.name lineup.deltas.length }

/-- Make a container the new side of a delta. -/
def putAfter (container : Container) (delta : ContainerDelta) : ContainerDelta :=
  { delta with after := some container }

/-- Make a container the old side of a delta. -/
def putBefore (container : Container) (delta : ContainerDelta) : ContainerDelta :=
  { delta with before := some container }

/-- Walk through the new list and then through the old one. -/
def ofContainers (before after : List Container) : Lineup :=
  before.foldl (meet putBefore) (after.foldl (meet putAfter) {})

/-- The deltas of a walk are those that a function gives to some names, in their order, and the walk
knows their places. -/
structure Tells (f : String → ContainerDelta) (names : List String) (lineup : Lineup) : Prop where
  /-- There is a delta for each name. -/
  deltas_eq : lineup.deltas = names.map f
  /-- Its place is that of the name. -/
  places_iff : ∀ (name : String) (place : Nat),
    lineup.places[name]? = some place ↔ names[place]? = some name

variable {f f' : String → ContainerDelta} {names : List String} {lineup : Lineup}
  {put : Container → ContainerDelta → ContainerDelta} {container : Container}

/-- A name that was met before has its delta overwritten. -/
theorem Tells.meet_of_mem (h : Tells f names lineup) (hnodup : names.Nodup)
    (hmem : container.name ∈ names)
    (hput : ∀ name ∈ names,
      f' name = if container.name = name then put container (f name) else f name) :
    Tells f' names (lineup.meet put container) := by
  obtain ⟨place, hplace⟩ := List.mem_iff_getElem?.1 hmem
  have hplaces := (h.places_iff container.name place).2 hplace
  have hmeet : lineup.meet put container =
      { lineup with deltas := lineup.deltas.modify place (put container) } := by
    rw [meet, hplaces]
  rw [hmeet]
  refine ⟨?_, h.places_iff⟩
  show lineup.deltas.modify place (put container) = names.map f'
  apply List.ext_getElem?
  intro other
  rw [List.getElem?_modify, h.deltas_eq, List.getElem?_map, List.getElem?_map]
  cases hother : names[other]? with
  | none => rfl
  | some name =>
    have hname : name ∈ names := List.mem_of_getElem? hother
    -- no other name stands at the place
    have hsame : place = other ↔ container.name = name := by
      constructor
      · rintro rfl
        exact Option.some.inj (hplace.symm.trans hother)
      · rintro rfl
        exact (List.getElem?_inj (List.getElem?_eq_some_iff.1 hplace).1 hnodup).1
          (hplace.trans hother.symm)
    rw [Option.map_some, Option.map_some, Option.map_eq_map, Option.map_some, hput name hname]
    simp only [hsame]

/-- A name that was not met before gets a delta at the end. -/
theorem Tells.meet_of_notMem (h : Tells f names lineup) (hmem : container.name ∉ names)
    (hput : ∀ name ∈ names, f' name = f name)
    (hnew : f' container.name =
      put container { name := container.name, before := none, after := none }) :
    Tells f' (names ++ [container.name]) (lineup.meet put container) := by
  have hplaces : lineup.places[container.name]? = none := by
    rw [Option.eq_none_iff_forall_ne_some]
    intro place hplace
    exact hmem (List.mem_of_getElem? ((h.places_iff _ _).1 hplace))
  have hmeet : lineup.meet put container =
      { deltas := lineup.deltas ++
          [put container { name := container.name, before := none, after := none }]
        places := lineup.places.insert container.name lineup.deltas.length } := by
    rw [meet, hplaces]
  have hlength : lineup.deltas.length = names.length := by rw [h.deltas_eq, List.length_map]
  rw [hmeet]
  constructor
  · show lineup.deltas ++ _ = _
    rw [h.deltas_eq, ← hnew, List.map_append, List.map_singleton, List.map_congr_left hput]
  · intro name place
    show (lineup.places.insert container.name lineup.deltas.length)[name]? = some place ↔ _
    rw [Std.HashMap.getElem?_insert, List.getElem?_append, hlength]
    by_cases hname : container.name = name
    · subst hname
      rw [if_pos (beq_self_eq_true _), Option.some.injEq]
      constructor
      · rintro rfl
        simp
      · intro hplace
        split at hplace
        · exact absurd (List.mem_of_getElem? hplace) hmem
        · have := (List.getElem?_eq_some_iff.1 hplace).1
          simp only [List.length_singleton] at this
          omega
    · rw [if_neg (by simpa using hname), h.places_iff]
      split
      · rfl
      next hge =>
        -- behind the last name there is only the new one
        rw [List.getElem?_eq_none (Nat.le_of_not_lt hge), List.getElem?_singleton]
        split <;> simp [hname]

/-- One step of the walk, for the names of two lists that have become one container longer. -/
theorem Tells.meet {before after before' after' : List Container}
    (h : Tells (ofName before after) (ContainerDelta.names before after) lineup)
    (hlists : after' ++ before' = (after ++ before) ++ [container])
    (hput : ∀ name, ofName before' after' name =
      if container.name = name then put container (ofName before after name)
      else ofName before after name) :
    Tells (ofName before' after') (ContainerDelta.names before' after')
      (lineup.meet put container) := by
  -- a name is listed once, where it was first met
  have hnames : ContainerDelta.names before' after' =
      if container.name ∈ ContainerDelta.names before after then ContainerDelta.names before after
      else ContainerDelta.names before after ++ [container.name] := by
    rw [ContainerDelta.names, hlists, List.map_append, List.map_singleton,
      eraseDups_append_singleton]
    simp only [ContainerDelta.names, List.mem_eraseDups]
  rw [hnames]
  split
  next hmem => exact h.meet_of_mem (nodup_names before after) hmem fun name _ => hput name
  next hmem =>
    refine h.meet_of_notMem hmem (fun name hname => ?_) ?_
    · rw [hput name, if_neg]
      rintro rfl
      exact hmem hname
    · rw [mem_names_iff, not_or, ← ContainerDelta.lastNamed?_eq_none_iff,
        ← ContainerDelta.lastNamed?_eq_none_iff] at hmem
      rw [hput, if_pos rfl, ofName, hmem.1, hmem.2]

/-- The walk has a delta for each name, with the last containers of the name. -/
theorem tells_ofContainers (before after : List Container) :
    Tells (ofName before after) (ContainerDelta.names before after)
      (ofContainers before after) := by
  -- the containers of the new list are met first, and those of the old one then
  have hnews : Tells (ofName [] after) (ContainerDelta.names [] after)
      (after.foldl (meet putAfter) {}) := by
    induction after using List.reverseRecOn with
    | nil => exact ⟨rfl, fun name place => by simp [ContainerDelta.names]⟩
    | append_singleton after container ih =>
      rw [List.foldl_append]
      refine ih.meet (by simp) fun name => ?_
      rw [ofName, lastNamed?_append_singleton]
      split <;> rfl
  rw [ofContainers]
  induction before using List.reverseRecOn with
  | nil => exact hnews
  | append_singleton before container ih =>
    rw [List.foldl_append]
    refine ih.meet (by simp) fun name => ?_
    rw [ofName, lastNamed?_append_singleton]
    split <;> rfl

end Lineup

namespace ContainerDelta

/-- The deltas of two lists of containers are those that a walk through the new list and then
through the old one collects, and no other deltas line the lists up. -/
theorem ofLists_linesUp (before after : List Container) :
    ofLists before after = number (Lineup.ofContainers before after).deltas ∧
      ∀ deltas, LinesUp before after deltas ↔ deltas = ofLists before after := by
  constructor
  · rw [(Lineup.tells_ofContainers before after).deltas_eq]
    rfl
  · intro deltas
    constructor
    · exact LinesUp.eq_ofLists
    · rintro rfl
      exact linesUp_ofLists before after

/-- Repeated names collapse, and the last containers count. -/
example :
    ofLists [⟨"a", "", []⟩, ⟨"b", "1", []⟩, ⟨"b", "2", []⟩] [⟨"a", "3", []⟩, ⟨"a", "4", []⟩] =
      [⟨"a", "0", some ⟨"a", "", []⟩, some ⟨"a", "4", []⟩⟩,
        ⟨"b", "1", some ⟨"b", "2", []⟩, none⟩] := by
  rfl

end ContainerDelta

end BuildScope
