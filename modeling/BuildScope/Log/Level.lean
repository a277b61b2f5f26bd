/-!
# Log Settings

How much is logged, and in which form.

* `Level.ofText`, `Format.ofText`: the settings that a word names, or what is wrong with it.
-/

namespace BuildScope.Log

/-- Importance of an event. -/
inductive Level where
  /-- Something has failed. -/
  | error
  /-- Something may be wrong. -/
  | warn
  /-- Something has been done. -/
  | info
  /-- Something that helps to find mistakes. -/
  | debug
  /-- Something that happens all the time. -/
  | trace
  deriving DecidableEq, Repr

/-- Form of a log. -/
inductive Format where
  /-- Lines for people. -/
  | pretty
  /-- One JSON object for each event. -/
  | json
  deriving DecidableEq, Repr

/-- What is wrong with a setting. -/
inductive SettingFault where
  /-- The text names no form. -/
  | invalidFormat (text : String)
  /-- The text names no level. -/
  | invalidLevel (text : String)
  deriving DecidableEq, Repr

/-- What is reported of a fault. -/
def SettingFault.message : SettingFault → String
  | .invalidFormat text => s!"Invalid log format: {text}. Use 'pretty' or 'json'"
  | .invalidLevel text =>
    s!"Invalid log level: {text}. Use 'error', 'warn', 'info', 'debug', or 'trace'"

namespace Level

/-- Name of a level in a log. -/
def label : Level → String
  | .error => "ERROR"
  | .warn => "WARN"
  | .info => "INFO"
  | .debug => "DEBUG"
  | .trace => "TRACE"

/-- Number of a level. The more it lets through, the greater it is. -/
def number : Level → Nat
  | .error => 1
  | .warn => 2
  | .info => 3
  | .debug => 4
  | .trace => 5

/-- The level that a word in lower case names. -/
def ofWord? : String → Option Level
  | "error" | "err" => some .error
  | "warn" | "warning" => some .warn
  | "info" => some .info
  | "debug" | "dbg" => some .debug
  | "trace" => some .trace
  | _ => none

/-- The level that a text names, whatever the case of its letters. Of the letters outside of ASCII
only the Kelvin sign has an ASCII letter as its lower case, and no word has a `k`. -/
def ofText (text : String) : Except SettingFault Level :=
  match ofWord? text.toLower with
  | some level => .ok level
  | none => .error (.invalidLevel text)

end Level

namespace Format

/-- The form that a word in lower case names. -/
def ofWord? : String → Option Format
  | "pretty" | "dev" | "development" => some .pretty
  | "json" | "prod" | "production" => some .json
  | _ => none

/-- The form that a text names, whatever the case of its letters; as for levels, ASCII letters are
all that counts. -/
def ofText (text : String) : Except SettingFault Format :=
  match ofWord? text.toLower with
  | some format => .ok format
  | none => .error (.invalidFormat text)

/-- The form that a setting asks for. Without one, and where it names none, it is lines. -/
def ofSetting (setting : Option String) : Format :=
  match setting.map ofText with
  | some (.ok format) => format
  | _ => .pretty

end Format

end BuildScope.Log
