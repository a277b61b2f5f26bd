/-!
# Options

How the arguments of a command are read: options with and without values, and words in their order.
Arguments are taken one by one, so that the first that is wrong, or that asks for help, decides.

* `Scan.step`: the reading of one argument.
* `Scan.finish`: what has been read when the arguments end.
-/

namespace BuildScope.Command

/-- Why arguments lead to no command. -/
inductive Halt where
  /-- They are wrong. -/
  | usage
  /-- They ask for help. -/
  | help
  /-- They ask for the version. -/
  | version
  deriving DecidableEq, Repr

/-- An argument by its form. -/
inductive Argument where
  /-- Two dashes, after which everything is a word. -/
  | separator
  /-- A name after two dashes, perhaps with a value after an equals sign. -/
  | long (name : String) (value : Option String)
  /-- A letter after one dash. What follows the letter does not count, for a letter stands for an
  option that takes no value and ends the reading. -/
  | short (letter : Char)
  /-- Anything else, a single dash included. -/
  | word (text : String)
  deriving DecidableEq, Repr

/-- The form of an argument. -/
def Argument.ofString (argument : String) : Argument :=
  match argument.toList with
  | ['-', '-'] => .separator
  | '-' :: '-' :: rest =>
    match rest.dropWhile (· != '=') with
    | [] => .long (.ofList rest) none
    | _ :: value => .long (.ofList (rest.takeWhile (· != '='))) (some (.ofList value))
  | '-' :: letter :: _ => .short letter
  | _ => .word argument

/-- How a text is filled into a draft, if it is a value of the right kind. -/
abbrev Filling (δ : Type) := String → δ → Option δ

/-- What an option does. -/
inductive Action (δ : Type) where
  /-- Switch something on. -/
  | switch (fill : δ → δ)
  /-- Take a value. -/
  | value (fill : Filling δ)
  /-- End the reading of arguments. -/
  | halt (halt : Halt)

/-- An option of a command. -/
structure Parameter (δ : Type) where
  /-- Its name. -/
  name : String
  /-- Its letter, if it has one. -/
  letter : Option Char := none
  /-- Whether a draft has been filled in by it. -/
  isSet : δ → Bool := fun _ => false
  /-- What it does. -/
  action : Action δ

namespace Parameter

variable {δ β : Type}

/-- An option that asks for help. -/
def help : Parameter δ :=
  { name := "help", letter := some 'h', action := .halt .help }

/-- An option that asks for the version. -/
def version : Parameter δ :=
  { name := "version", letter := some 'V', action := .halt .version }

/-- An option that switches on what `get` and `set` reach. -/
def switch (name : String) (get : δ → Bool) (set : δ → δ) : Parameter δ :=
  { name, isSet := get, action := .switch set }

/-- An option whose value `read` understands, and that `get` and `set` reach. -/
def setting (name : String) (read : String → Option β) (get : δ → Option β) (set : δ → β → δ) :
    Parameter δ where
  name
  isSet draft := (get draft).isSome
  action := .value fun text draft => (read text).map (set draft)

end Parameter

/-- How far the arguments of a command have been read. -/
structure Scan (δ : Type) where
  /-- What has been filled in. -/
  draft : δ
  /-- How the value is filled in that an option waits for. -/
  pending : Option (Filling δ) := none
  /-- Whether all that follows are words. -/
  onlyWords : Bool := false
  /-- How the words to come are filled in. -/
  words : List (Filling δ) := []

namespace Scan

variable {δ : Type}

/-- Fill in a text. -/
def fillIn (scan : Scan δ) (fill : Filling δ) (text : String) : Except Halt (Scan δ) :=
  match fill text scan.draft with
  | some draft => .ok { scan with draft, pending := none }
  | none => .error .usage

/-- Take a word. -/
def takeWord (scan : Scan δ) (text : String) : Except Halt (Scan δ) :=
  match scan.words with
  | [] => .error .usage
  | fill :: words => { scan with words }.fillIn fill text

/-- Take an option that may have come with a value. -/
def takeOption (scan : Scan δ) (parameter : Parameter δ) (value : Option String) :
    Except Halt (Scan δ) :=
  match parameter.action, value with
  | .halt halt, none => .error halt
  | .switch fill, none =>
    if parameter.isSet scan.draft then .error .usage
    else .ok { scan with draft := fill scan.draft }
  | .value fill, some text =>
    if parameter.isSet scan.draft then .error .usage else scan.fillIn fill text
  | .value fill, none =>
    if parameter.isSet scan.draft then .error .usage else .ok { scan with pending := some fill }
  | .halt _, some _ | .switch _, some _ => .error .usage

/-- Take an option that has been found, if it has been. -/
def takeFound (scan : Scan δ) (found : Option (Parameter δ)) (value : Option String) :
    Except Halt (Scan δ) :=
  match found with
  | some parameter => scan.takeOption parameter value
  | none => .error .usage

/-- Take an argument. Where an option waits for its value, nothing but a word can be that. -/
def step (parameters : List (Parameter δ)) (scan : Scan δ) (argument : String) :
    Except Halt (Scan δ) :=
  if scan.onlyWords then scan.takeWord argument
  else
    match scan.pending, Argument.ofString argument with
    | some fill, .word text => scan.fillIn fill text
    | some _, _ => .error .usage
    | none, .word text => scan.takeWord text
    | none, .separator => .ok { scan with onlyWords := true }
    | none, .short letter => scan.takeFound (parameters.find? (·.letter == some letter)) none
    | none, .long name value => scan.takeFound (parameters.find? (·.name == name)) value

/-- What has been filled in when the arguments end, if it is complete. -/
def finish {α : Type} (scan : Scan δ) (complete : δ → Option α) : Except Halt α :=
  match scan.pending, complete scan.draft with
  | none, some a => .ok a
  | _, _ => .error .usage

end Scan

end BuildScope.Command
