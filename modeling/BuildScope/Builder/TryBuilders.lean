import BuildScope.Buildbucket.Session
import BuildScope.Builder.Manifest
import BuildScope.Builder.Mirrors

/-!
# Try Builders

The try builders that mirror some CI builders. What mirrors a CI builder is known from the manifest
or looked up in its latest build, for which a client is asked. The build service is such a client.

* `Lookup.ofBuilder`: what is found out about one CI builder, asking a client if needed.
* `TryBuilders.ofLookups`: what the lookups add up to.
* `TryBuilders.ofBuilders`: the try builders of some CI builders, looked up in turn.
-/

namespace BuildScope

open Buildbucket (QueryFault)
open Mirrors (MirrorFault)

/-- What is found out about the mirrors of a CI builder. -/
inductive Lookup where
  /-- It belongs to another project and has no mirrors. -/
  | nonChromium
  /-- It does not exist, but try builders stand in for it. -/
  | fake (mirrors : BuilderSet)
  /-- The client has no output of it. -/
  | missing
  /-- Its latest build names these mirrors. -/
  | built (mirrors : List Builder)

/-- Why a lookup fails, given why a client does not answer. -/
inductive LookupFault (ε : Type) where
  /-- The client does not answer. -/
  | query (fault : ε)
  /-- The latest build does not tell the mirrors. -/
  | mirrors (fault : MirrorFault)
  deriving DecidableEq, Repr

/-- How a client is asked for the output of the latest build of a builder. -/
abbrev Client (ε : Type) (m : Type → Type) := Builder → m (Except ε (Option String))

/-- The build service as a client. -/
abbrev Service (m : Type → Type) := Client QueryFault m

variable {ε : Type}

namespace Lookup

/-- The set of mirrors that a lookup has found. -/
def mirrors : Lookup → BuilderSet
  | .nonChromium | .missing => ∅
  | .fake mirrors => mirrors
  | .built mirrors => .ofList mirrors

/-- Whether a lookup has found no output. -/
def isMissing : Lookup → Bool
  | .missing => true
  | _ => false

/-- What the manifest alone tells about a builder. -/
def ofManifest? (manifest : Manifest) (builder : Builder) : Option Lookup :=
  if builder ∈ manifest.nonChromium then some .nonChromium
  else manifest.fakes[builder]?.map .fake

/-- What the answer of a client tells about a builder. -/
def ofAnswer (builder : Builder) : Except ε (Option String) → Except (LookupFault ε) Lookup
  | .error fault => .error (.query fault)
  | .ok none => .ok .missing
  | .ok (some output) =>
    match Mirrors.ofOutput builder output with
    | .ok mirrors => .ok (.built mirrors)
    | .error fault => .error (.mirrors fault)

/-- What is found out about a builder. The client is asked only if the manifest does not tell. -/
def ofBuilder {m : Type → Type} [Monad m] (manifest : Manifest) (client : Client ε m)
    (builder : Builder) : m (Except (LookupFault ε) Lookup) := do
  match ofManifest? manifest builder with
  | some lookup => return .ok lookup
  | none => return ofAnswer builder (← client builder)

end Lookup

namespace TryBuilders

/-- Why the mirrors of some builders are not known. -/
inductive MirrorsFault (ε : Type) where
  /-- A lookup has failed. -/
  | lookup (fault : LookupFault ε)
  /-- These builders, sorted by name, have no output. -/
  | missing (names : List String)
  deriving DecidableEq, Repr

/-- What is reported of builders that have no output. -/
def missingMessage (names : List String) : String :=
  "Did not get Buildbucket output for the following builders. " ++
    "They may need to be added to the fake CI builders or the non-Chromium builders.\n" ++
    "\n".intercalate names

/-- The names of the builders that have no output, in order. -/
def missingNames (lookups : List (Builder × Lookup)) : List String :=
  ((lookups.filter (·.2.isMissing)).map (·.1.name)).mergeSort fun a b => a ≤ b

/-- The mirrors that some lookups have found, if no output is missing. -/
def ofLookups (lookups : List (Builder × Lookup)) : Except (MirrorsFault ε) BuilderSet :=
  match missingNames lookups with
  | [] => .ok (lookups.foldl (fun mirrors (_, lookup) => mirrors ∪ lookup.mirrors) ∅)
  | names => .error (.missing names)

/-- Look up builders in turn, until a lookup fails. -/
def lookUpAll {m : Type → Type} [Monad m]
    (lookUp : Builder → m (Except (LookupFault ε) Lookup)) :
    List Builder → m (Except (LookupFault ε) (List (Builder × Lookup)))
  | [] => return .ok []
  | builder :: builders => do
    match ← lookUp builder with
    | .error fault => return .error fault
    | .ok lookup =>
      match ← lookUpAll lookUp builders with
      | .error fault => return .error fault
      | .ok lookups => return .ok ((builder, lookup) :: lookups)

/-- The try builders that mirror some CI builders, which are looked up in turn. -/
def ofBuilders {m : Type → Type} [Monad m]
    (lookUp : Builder → m (Except (LookupFault ε) Lookup)) (builders : List Builder) :
    m (Except (MirrorsFault ε) BuilderSet) := do
  match ← lookUpAll lookUp builders with
  | .error fault => return .error (.lookup fault)
  | .ok lookups => return ofLookups lookups

/-- The builders of which the manifest does not tell, so that the client is asked. -/
def asked (manifest : Manifest) (builders : List Builder) : List Builder :=
  builders.filter fun builder => (Lookup.ofManifest? manifest builder).isNone

end TryBuilders

end BuildScope
