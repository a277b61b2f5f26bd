import BuildScope.Json.Reader
import BuildScope.Proofs.Json.Structure

/-!
# Looking Into Values

What is known of a value when a part of it has been found. The keys of an object that was read from
a document are distinct, so that finding a member under its key is finding it among all members.

* `Value.asText?_eq_some_iff`, `Value.asArray?_eq_some_iff`: values of one kind.
* `lookup_eq_some_iff_mem`: the member that a key leads to, if keys are distinct.
* `nodup_keys_of_toValue`: the keys of an object that was read are distinct.
-/

namespace BuildScope.Json

namespace Value

variable {value found : Value} {key s : String} {items : List Value}
  {members : List (String × Value)}

theorem asText?_eq_some_iff : value.asText? = some s ↔ value = .text s := by
  cases value with
  | text t => rw [asText?, Option.some.injEq, text.injEq]
  | _ => exact iff_of_false nofun nofun

theorem asArray?_eq_some_iff : value.asArray? = some items ↔ value = .array items := by
  cases value with
  | array others => rw [asArray?, Option.some.injEq, array.injEq]
  | _ => exact iff_of_false nofun nofun

/-- Only objects have members. -/
theorem exists_object_of_get? (h : value.get? key = some found) :
    ∃ members, value = .object members ∧ members.lookup key = some found := by
  cases value with
  | object members => exact ⟨members, rfl, h⟩
  | _ => cases h

end Value

/-- Where keys are distinct, a key leads to each member that has it. -/
theorem lookup_eq_some_iff_mem {α : Type} {entries : List (String × α)} {key : String} {a : α}
    (h : (entries.map Prod.fst).Nodup) : entries.lookup key = some a ↔ (key, a) ∈ entries := by
  rw [List.lookup_eq_some_iff]
  constructor
  · rintro ⟨front, back, rfl, -⟩
    exact List.mem_append_cons_self
  · intro hmem
    obtain ⟨front, back, rfl⟩ := List.append_of_mem hmem
    refine ⟨front, back, rfl, fun entry hentry => ?_⟩
    -- a member in front of it has another key
    rw [List.map_append, List.map_cons, List.nodup_append] at h
    rw [bne_iff_ne, ne_comm]
    exact h.2.2 entry.1 (List.mem_map_of_mem hentry) key List.mem_cons_self

/-- The keys of an object that was read from a tree are distinct. -/
theorem nodup_keys_of_toValue {tree : Tree} {depth : Nat} {members : List (String × Value)}
    (h : tree.toValue depth = .ok (.object members)) : (members.map Prod.fst).Nodup := by
  -- the members of an object are sorted by their keys, each of which is kept once
  have hsorted : members.Pairwise fun a b => compare a.1 b.1 = .lt := by
    cases tree with
    | object before ending =>
      obtain ⟨_, values, -, -, -, heq⟩ := Tree.toValue_object_eq_ok.1 h
      cases heq
      exact sortMembers_sorted values
    | array items ending =>
      obtain ⟨_, _, -, -, -, heq⟩ := Tree.toValue_array_eq_ok.1 h
      cases heq
    | number n => cases n <;> cases h
    | text s => cases s <;> cases h
    | null | bool b | stop place => cases h
  rw [List.Nodup, List.pairwise_map]
  refine hsorted.imp fun {a b} hlt heq => ?_
  rw [heq] at hlt
  exact Std.OrientedCmp.not_lt_of_lt hlt hlt

namespace Reader

variable {document : Text.Document} {members : List (String × Value)} {key : String}
  {found : Value}

/-- The keys of an object that was read from a document are distinct. -/
theorem nodup_keys_of_ofDocument (h : value.ofDocument document = .ok (.object members)) :
    (members.map Prod.fst).Nodup := by
  obtain ⟨read, hread, hrest⟩ := Except.bind_eq_ok.1 h
  split at hrest
  next =>
    cases hrest
    exact nodup_keys_of_toValue hread
  next => cases hrest

end Reader

end BuildScope.Json
