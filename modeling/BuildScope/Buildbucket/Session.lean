import BuildScope.Buildbucket.Tool
import BuildScope.Builder.Basic
import BuildScope.Text.Blank

/-!
# Sessions with the Build Service

A session asks the build service for the latest builds of builders. Before the first question it
makes sure that somebody is logged in; once that is known it does not ask again.

* `Session.query_of_isLoggedIn`: who is logged in is not asked again.
* `Session.runs_logIn`: before that, each query asks once.
-/

namespace BuildScope.Buildbucket

/-- Why there is no answer to a query. -/
inductive QueryFault where
  /-- Nobody is logged in. -/
  | notAuthenticated
  /-- A run of the tool has failed. -/
  | commandFailed (command : String) (status : ExitStatus)
  /-- The tool does not start. -/
  | notStarted (fault : StartFault)
  deriving DecidableEq, Repr

/-- What is reported of a fault. -/
def QueryFault.message : QueryFault → String
  | .notAuthenticated => "You are not logged into bb - run `bb auth-login`."
  | .commandFailed command status => "Command `" ++ command ++ "` failed: " ++ status.text
  | .notStarted fault => "IO error: " ++ fault.message

/-- What a query has come to. -/
structure Report where
  /-- The runs of the tool that have started, in order. -/
  runs : List Run
  /-- How the listing of builds has ended, if it has failed. -/
  failedListing : Option ExitStatus := none
  /-- The description of the latest build, unless there is none. -/
  answer : Except QueryFault (Option String)

/-- A session with the build service. -/
structure Session where
  /-- Name of the tool. -/
  binary : String := "bb"
  /-- Whether somebody is known to be logged in. -/
  isLoggedIn : Bool := false
  deriving DecidableEq, Repr

namespace Session

/-- What the output of the tool says, without the blanks around it. -/
def description (output : Text.Document) : Option String :=
  let text := String.ofList (Text.trim output.lossy.toList)
  if text = "" then none else some text

/-- Ask for the builds that a listing has printed. A listing that has failed may still have
printed some. -/
def queryListed (session : Session) (tool : Tool) (path : String) (listing : Response) : Report :=
  -- a failed listing is reported, but what it has printed is used all the same
  let failedListing := if listing.status.isSuccess then none else some listing.status
  let get := Run.get listing.output
  match tool.start get with
  | .error fault => ⟨[.list path], none, .error (.notStarted fault)⟩
  | .ok response =>
    if response.status.isSuccess then
      ⟨[.list path, get], failedListing, .ok (description response.output)⟩
    else
      let command := " ".intercalate (session.binary :: get.arguments)
      ⟨[.list path, get], failedListing, .error (.commandFailed command response.status)⟩

/-- Ask for the latest build of a builder. -/
def queryBuild (session : Session) (tool : Tool) (path : String) : Report :=
  match tool.start (.list path) with
  | .error fault => ⟨[], none, .error (.notStarted fault)⟩
  | .ok listing => session.queryListed tool path listing

/-- Make sure that somebody is logged in: the session after that, with the runs it took, and the
fault if it fails. -/
def logIn (session : Session) (tool : Tool) : Session × List Run × Option QueryFault :=
  if session.isLoggedIn then (session, [], none)
  else
    match tool.start .authInfo with
    | .error fault => (session, [], some (.notStarted fault))
    | .ok response =>
      if response.status.isSuccess then ({ session with isLoggedIn := true }, [.authInfo], none)
      else (session, [.authInfo], some .notAuthenticated)

/-- Ask for the latest build of a builder, after making sure that somebody is logged in. -/
def query (session : Session) (tool : Tool) (builder : Builder) : Session × Report :=
  match session.logIn tool with
  | (session, runs, some fault) => (session, ⟨runs, none, .error fault⟩)
  | (session, runs, none) =>
    let report := session.queryBuild tool builder.path
    (session, { report with runs := runs ++ report.runs })

/-- Who is logged in is not asked again. -/
theorem query_of_isLoggedIn {session : Session} (h : session.isLoggedIn) (tool : Tool)
    (builder : Builder) :
    session.query tool builder = (session, session.queryBuild tool builder.path) := by
  simp [query, logIn, h]

/-- Logging in takes at most the one run that asks for it. -/
theorem runs_logIn (session : Session) (tool : Tool) :
    (session.logIn tool).2.1 = [] ∨ (session.logIn tool).2.1 = [.authInfo] := by
  unfold logIn
  split
  · exact .inl rfl
  split
  · exact .inl rfl
  · split <;> exact .inr rfl

end Session

end BuildScope.Buildbucket
