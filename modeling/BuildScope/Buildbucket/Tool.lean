import BuildScope.Text.Utf8

/-!
# The Build Tool

The build service is reached through a command line tool. What the tool does when it is run is not
ours to say: it is a function of the run.

* `Run.arguments`: the arguments of a run.
* `Tool.start`: a run, which does not start if an argument cannot be passed on.
-/

namespace BuildScope.Buildbucket

/-- How a program has ended. -/
inductive ExitStatus where
  /-- By itself, with a code. -/
  | exited (code : UInt8)
  /-- By a signal, which may have left an image of the program behind. -/
  | signaled (signal : Nat) (dumped : Bool)
  deriving DecidableEq, Repr

/-- Names of the signals that have one, the first signal first. -/
def signalNames : List String :=
  ["SIGHUP", "SIGINT", "SIGQUIT", "SIGILL", "SIGTRAP", "SIGABRT", "SIGBUS", "SIGFPE", "SIGKILL",
    "SIGUSR1", "SIGSEGV", "SIGUSR2", "SIGPIPE", "SIGALRM", "SIGTERM", "SIGSTKFLT", "SIGCHLD",
    "SIGCONT", "SIGSTOP", "SIGTSTP", "SIGTTIN", "SIGTTOU", "SIGURG", "SIGXCPU", "SIGXFSZ",
    "SIGVTALRM", "SIGPROF", "SIGWINCH", "SIGIO", "SIGPWR", "SIGSYS"]

namespace ExitStatus

/-- By the signal that cannot be caught. -/
def killed : ExitStatus :=
  .signaled 9 false

/-- Whether the program has succeeded. -/
def isSuccess (status : ExitStatus) : Bool :=
  status = .exited 0

/-- How a status is shown. -/
def text : ExitStatus → String
  | .exited code => s!"exit status: {code.toNat}"
  | .signaled signal dumped =>
    -- signals are numbered from one on
    let name := if signal = 0 then none else signalNames[signal - 1]?
    let shown := (name.map fun name => " (" ++ name ++ ")").getD ""
    let image := if dumped then " (core dumped)" else ""
    s!"signal: {signal}" ++ shown ++ image

end ExitStatus

/-- Why a program does not start. -/
inductive StartFault where
  /-- There is no such program. -/
  | noProgram
  /-- An argument has a character that cannot be passed on. -/
  | nulInArgument
  /-- The system refuses to start it, with a description and a number. -/
  | refused (description : String) (number : Nat)
  deriving DecidableEq, Repr

/-- What is reported of a program that does not start. -/
def StartFault.message : StartFault → String
  | .noProgram => "No such file or directory (os error 2)"
  | .nulInArgument => "nul byte found in provided data"
  | .refused description number => s!"{description} (os error {number})"

/-- A run of the tool. -/
inductive Run where
  /-- Ask whether somebody is logged in. -/
  | authInfo
  /-- Ask for the number of the last completed build of a builder. -/
  | list (path : String)
  /-- Ask for the builds whose numbers are the input. -/
  | get (input : Text.Document)
  deriving DecidableEq, Repr

/-- The arguments of a run. -/
def Run.arguments : Run → List String
  | .authInfo => ["auth-info"]
  | .list path => ["ls", "-id", "-1", "-status", "ended", path]
  | .get _ => ["get", "-A", "-json"]

/-- What a run has led to. -/
structure Response where
  /-- What the tool has printed. -/
  output : Text.Document := []
  /-- How it has ended. -/
  status : ExitStatus := .exited 0
  deriving DecidableEq, Repr

/-- A tool, which answers to a run if there is such a program. -/
abbrev Tool := Run → Except StartFault Response

namespace Tool

/-- The tool that does not exist. -/
def missing : Tool := fun _ => .error .noProgram

/-- Run a tool. -/
def start (tool : Tool) (run : Run) : Except StartFault Response :=
  if run.arguments.any fun argument => argument.toList.contains '\x00' then
    .error .nulInArgument
  else tool run

/-- The question for a login can always be passed on. -/
@[simp]
theorem start_authInfo (tool : Tool) : tool.start .authInfo = tool .authInfo := rfl

/-- The numbers of builds can always be passed on. -/
@[simp]
theorem start_get (tool : Tool) (input : Text.Document) :
    tool.start (.get input) = tool (.get input) := rfl

end Tool

end BuildScope.Buildbucket
