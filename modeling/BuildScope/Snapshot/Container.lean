import BuildScope.Json.Value

/-!
# Containers

The binaries and libraries that own symbols. A container is known by its name; the empty name is a
name like any other.
-/

namespace BuildScope

/-- A binary or library that owns symbols. -/
structure Container where
  /-- Name that lines the container up across two snapshots. -/
  name : String
  /-- Label for reports. -/
  shortName : String := ""
  /-- Build metadata of free shape, sorted by key. -/
  metadata : List (String × Json.Value) := []
  deriving BEq, Repr

end BuildScope
