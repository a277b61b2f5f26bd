import BuildScope.Builder.Basic
import BuildScope.Json.Reader
import BuildScope.Text.Parts
import BuildScope.Text.Quoted

/-!
# Mirrors

The try builders that mirror a CI builder are named in the output of its latest build, each by its
group and its own name, with a colon between.

* `Mirrors.ofName_eq_ok_iff`: the names that have this form.
* `Mirrors.ofOutput`: the mirrors of a build output, in its order.
-/

namespace BuildScope

open Json (Fault Reader Value)

namespace Mirrors

/-- Why the mirrors of a builder are not known. -/
inductive MirrorFault where
  /-- The output is no JSON document. -/
  | document (fault : Fault)
  /-- After some mirrors comes one whose name has another number of parts than two. -/
  | malformedName (found : List Builder) (name : String) (parts : Nat)
  deriving DecidableEq, Repr

/-- What is reported of a name with another number of parts than two. -/
def malformedNameMessage (name : String) (parts : Nat) : String :=
  "assertion `left == right` failed: mirrored builder " ++ Text.quote name
    ++ s!" is not of the form group:name\n  left: {parts}\n right: 2"

/-- The part of a name after its group, or the number of its parts if that is not two. -/
def ofName (name : String) : Except Nat String :=
  match Text.parts ':' name.toList with
  | [_, own] => .ok (.ofList own)
  | parts => .error parts.length

/-- The names of the mirrors in the output of a build. Where they are missing there are none, and
what is no text is no name. -/
def names (build : Value) : List String :=
  let mirrored := do (← (← build.get? "output").get? "properties").get? "mirrored_builders"
  ((mirrored.bind Value.asArray?).getD []).filterMap Value.asText?

/-- The mirrors of some names, after those found already. They belong to the same project as the
CI builder. -/
def ofNames (isInternal : Bool) (found : List Builder) : List String →
    Except MirrorFault (List Builder)
  | [] => .ok found
  | name :: names =>
    match ofName name with
    | .ok own => ofNames isInternal (found ++ [⟨own, .tryJob, isInternal⟩]) names
    | .error parts => .error (.malformedName found name parts)

/-- The mirrors of a CI builder in the output of its build. -/
def ofOutput (builder : Builder) (output : String) : Except MirrorFault (List Builder) := do
  let build ← (Reader.value.ofDocument (.ofString output)).mapError .document
  ofNames builder.isInternal [] (names build)

/-- A name has the right form exactly if it is a group and a name without colons, with a colon
between. -/
theorem ofName_eq_ok_iff {name own : String} :
    ofName name = .ok own ↔
      ∃ group : List Char, name.toList = group ++ ':' :: own.toList ∧ ':' ∉ group ∧
        ':' ∉ own.toList := by
  constructor
  · intro h
    unfold ofName at h
    split at h
    · rename_i group part hparts
      obtain rfl : String.ofList part = own := by simpa using h
      -- the parts hold no colon, and joined by colons they are the name
      have notMem (p : List Char) (hp : p ∈ Text.parts ':' name.toList) : ':' ∉ p :=
        Text.separator_notMem_of_mem_parts hp
      refine ⟨group, ?_, notMem group (by simp [hparts]), ?_⟩
      · simpa [hparts] using (Text.intercalate_parts ':' name.toList).symm
      · simpa using notMem part (by simp [hparts])
    · cases h
  · rintro ⟨group, hname, hgroup, hown⟩
    have hparts : Text.parts ':' name.toList = [group, own.toList] := by
      rw [hname, Text.parts_append_cons _ hgroup, Text.parts_eq_singleton hown]
    simp [ofName, hparts]

end Mirrors

end BuildScope
