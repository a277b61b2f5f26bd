import BuildScope.Snapshot.Container

/-!
# Container Lists

The containers of two snapshots, lined up by name.

* `ContainerDelta.ofLists`: the containers of two lists, each name once.
-/

namespace BuildScope

/-- A container as it appears in both snapshots of a diff. -/
structure ContainerDelta where
  /-- Name of the container. -/
  name : String
  /-- Label for reports. -/
  shortName : String := ""
  /-- The container of the old build, if it had one. -/
  before : Option Container
  /-- The container of the new build, if it has one. -/
  after : Option Container
  deriving BEq, Repr

namespace ContainerDelta

/-- Whether only the new build has the container. -/
def isAdded (delta : ContainerDelta) : Bool :=
  delta.before.isNone

/-- Whether only the old build has the container. -/
def isRemoved (delta : ContainerDelta) : Bool :=
  delta.after.isNone

/-- Label containers by their places in a list. -/
def number (deltas : List ContainerDelta) : List ContainerDelta :=
  deltas.zipIdx.map fun (delta, place) => { delta with shortName := toString place }

/-- The last container of a list with a given name. -/
def lastNamed? (containers : List Container) (name : String) : Option Container :=
  containers.reverse.find? (·.name == name)

/-- The names of two lists of containers, each where it first occurs in the new list and then in
the old one. -/
def names (before after : List Container) : List String :=
  ((after ++ before).map Container.name).eraseDups

/-- Line up two lists of containers by name. Where a list has a name more than once, its last
container counts. -/
def ofLists (before after : List Container) : List ContainerDelta :=
  number <| (names before after).map fun name =>
    { name, before := lastNamed? before name, after := lastNamed? after name }

@[simp]
theorem length_number (deltas : List ContainerDelta) : (number deltas).length = deltas.length := by
  simp [number]

/-- Labels change no name. -/
theorem map_name_number (deltas : List ContainerDelta) :
    (number deltas).map name = deltas.map name := by
  apply List.ext_getElem <;> simp [number]

end ContainerDelta

end BuildScope
