import CoreArray.CommandLine.Usage
import CoreArray.Config.Basic
import CoreArray.Log.Setup
set_option autoImplicit false

/-!
# Command-line options (SPEC §10.11)

Options have long names and stand in any order.  Some are flags; the others take
a value, after an equals sign or as the next word, which then must not begin
with a hyphen unless it is a hyphen alone.  No option may be given twice, but
lists may, and then go on.
-/

namespace CoreArray

/-- The options of the program. -/
structure Options where
  /-- Whether events are told on the console. -/
  stdout : Bool
  level : Level
  filter : String
  logFile : Option String
  confFile : Option String
  /-- Whether a report follows the run. -/
  stats : Bool
  progress : Bool
  progressTicks : Nat
  overrides : Config.Overrides
  deriving DecidableEq, Repr, Inhabited

namespace Options

/-- The options that hold where nothing is said. -/
def default : Options :=
  { stdout := false
    level := .info
    filter := ""
    logFile := none
    confFile := none
    stats := false
    progress := false
    progressTicks := 1000
    overrides := .none }

/-- What is asked of the tracker. -/
def trackerConfig (options : Options) : TrackerConfig :=
  { enable := options.stdout || options.logFile.isSome
    level := options.level
    filter := options.filter
    file := options.logFile }

/-- Set a flag of a name; none if there is no such flag. -/
def setFlag (options : Options) : String → Option Options
  | "stdout" => some { options with stdout := true }
  | "stats" => some { options with stats := true }
  | "progress" => some { options with progress := true }
  | _ => none

/-- A value that is a path, which must not be empty. -/
def path? (value : String) : Option String := if value.isEmpty then none else some value

/-- Values between commas, each read on its own. -/
def values? {α : Type} (read : String → Option α) (value : String) : Option (List α) :=
  (Text.fieldsOf ',' value).mapM read

/-- Give an option of a name its value; none if the value does not fit. -/
def setValue (options : Options) (name value : String) : Option Options :=
  let o := options.overrides
  let override (overrides : Config.Overrides) : Options := { options with overrides }
  match name with
  | "stdout-level" => (Level.ofText? value).map fun level => { options with level }
  | "stdout-filter-regex" => some { options with filter := value }
  | "log-file" => some { options with logFile := some value }
  | "conf-file" => (path? value).map fun path => { options with confFile := some path }
  | "progress-ticks" =>
      (Text.unsigned? value).map fun ticks => { options with progressTicks := ticks }
  | "array-size" => (Text.unsigned? value).map fun n => override { o with arraySize := some n }
  | "task-dir" => (path? value).map fun path => override { o with taskDir := some path }
  | "task-files" => (values? some value).map fun files =>
      override { o with taskFiles := some (o.taskFiles.getD [] ++ files) }
  | "assigned-tasks" => (values? Text.unsigned? value).map fun tasks =>
      override { o with assignedTasks := some (o.assignedTasks.getD [] ++ tasks) }
  | "latency-file" => (path? value).map fun path => override { o with latencyFile := some path }
  | "routing-file" => (path? value).map fun path => override { o with routingFile := some path }
  | "threshold" => (Text.unsigned? value).map fun n => override { o with threshold := some n }
  | "channel-width" =>
      (Text.unsigned? value).map fun n => override { o with channelWidth := some n }
  | "delivery" =>
      (Delivery.read value).toOption.map fun d => override { o with delivery := some d }
  | "cycles-per-hop" =>
      (Text.unsigned? value).map fun n => override { o with cyclesPerHop := some n }
  | "deadlock-check-interval" =>
      (Text.unsigned? value).map fun n => override { o with deadlockInterval := some n }
  | "max-cycles" => (Text.unsigned? value).map fun n => override { o with maxCycles := some n }
  | "seed" => (Text.unsigned? value).map fun n => override { o with seed := some n }
  | _ => none

/-! ## Reading a command line -/

/-- What a command line asks for. -/
inductive Request where
  | run (options : Options)
  | help
  /-- The command line does not follow the rules. -/
  | misuse
  deriving DecidableEq, Repr, Inhabited

/-- Whether a word can be the value of the option before it. -/
def isValue (word : String) : Bool := word == "-" || !("-".isPrefixOf word)

/-- The name in a word that begins with two hyphens, and the value after an
equals sign. -/
def splitLong (word : String) : String × Option String :=
  let body := String.ofList (word.toList.drop 2)
  match Text.splitAt? '=' body with
  | some (name, value) => (name, some value)
  | none => (body, none)

/-- Read the words of a command line, given the options so far and the names that
have been used. -/
def readWords (options : Options) (used : List String) : List String → Request
  | [] => .run options
  | word :: words =>
      if word = "--" then if words.isEmpty then .run options else .misuse
      else if "--".isPrefixOf word then
        let (name, value?) := splitLong word
        let isRepeated := used.contains name && !Usage.isRepeatable name
        if name = "help" then if value?.isSome then .misuse else .help
        else if isRepeated then .misuse
        else
          match options.setFlag name, value? with
          | some options, none => readWords options (name :: used) words
          | some _, some _ => .misuse
          | none, some value =>
              match options.setValue name value with
              | some options => readWords options (name :: used) words
              | none => .misuse
          | none, none =>
              if Usage.takesValue name then
                match words with
                | [] => .misuse
                | value :: words =>
                    if isValue value then
                      match options.setValue name value with
                      | some options => readWords options (name :: used) words
                      | none => .misuse
                    else .misuse
              else .misuse
      else if "-h".isPrefixOf word then .help
      else .misuse

/-- Read a command line. -/
def read (words : List String) : Request := readWords default [] words

end Options

end CoreArray
