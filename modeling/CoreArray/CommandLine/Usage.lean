set_option autoImplicit false

/-!
# Usage (SPEC §10.11)

The options of the program: their names, whether a value follows, and a line of
explanation each.  The table says how a command line is read and what the program
answers when it is asked for help.
-/

namespace CoreArray.Usage

/-- What follows the name of an option. -/
inductive Form where
  /-- Nothing: the option is on if it is named. -/
  | flag
  /-- One value. -/
  | value
  /-- Values between commas; the option may be given again and then goes on. -/
  | list
  deriving DecidableEq, Repr, Inhabited

/-- An option with its explanation. -/
structure Entry where
  name : String
  form : Form
  help : String
  deriving DecidableEq, Repr, Inhabited

/-- All options. -/
def entries : List Entry :=
  [ ⟨"stdout", .flag, "Enable logging to the console"⟩
  , ⟨"stdout-level", .value, "Level of log message to display [default: Info]"⟩
  , ⟨"stdout-filter-regex", .value,
      "Set a regular expression for which entites should have logging level set to " ++
        "`--stdout-level`. Others will have level set to `Error` [default: \"\"]"⟩
  , ⟨"log-file", .value, "Write the log to this file instead of the console"⟩
  , ⟨"conf-file", .value, "Path to a TOML configuration file"⟩
  , ⟨"stats", .flag, "Print the state of every core when the run ends"⟩
  , ⟨"progress", .flag, "Show a progress bar of retired instructions"⟩
  , ⟨"progress-ticks", .value,
      "Number of cycles between updates to the progress bar [default: 1000]"⟩
  , ⟨"array-size", .value, "Number of cores in the array"⟩
  , ⟨"task-dir", .value, "Directory holding the task files"⟩
  , ⟨"task-files", .list, "Comma-separated task file names"⟩
  , ⟨"assigned-tasks", .list, "Comma-separated index into `task_files` for each core"⟩
  , ⟨"latency-file", .value, "Latency table file"⟩
  , ⟨"routing-file", .value, "Routing board file"⟩
  , ⟨"threshold", .value, "Inbound queue length up to which a node accepts packets"⟩
  , ⟨"channel-width", .value, "Tensor elements per transfer unit"⟩
  , ⟨"delivery", .value, "`unicast` or `multicast`"⟩
  , ⟨"cycles-per-hop", .value, "Latency of one network hop"⟩
  , ⟨"deadlock-check-interval", .value, "Cycles between deadlock checks (0 disables them)"⟩
  , ⟨"max-cycles", .value, "Stop after this many cycles (0 runs to completion)"⟩
  , ⟨"seed", .value, "Seed for track arbitration"⟩ ]

/-- The option of a name. -/
def named? (name : String) : Option Entry := entries.find? fun entry => entry.name == name

/-- Whether the option of a name takes a value. -/
def takesValue (name : String) : Bool := (named? name).any fun entry => entry.form != .flag

/-- Whether the option of a name may be given several times. -/
def isRepeatable (name : String) : Bool := (named? name).any fun entry => entry.form == .list

/-- The word that stands for the value of an option: its name in capitals. -/
def valueWord (name : String) : String :=
  String.ofList (name.toList.map fun c => if c = '-' then '_' else c.toUpper)

/-- An option as it is given. -/
def Entry.pattern (entry : Entry) : String :=
  match entry.form with
  | .flag => "--" ++ entry.name
  | _ => "--" ++ entry.name ++ " <" ++ valueWord entry.name ++ ">"

/-- The lines about an option. -/
def Entry.lines (entry : Entry) : List String :=
  ["      " ++ entry.pattern, "          " ++ entry.help]

/-- The name of the program. -/
def programName : String := "spatial-sim"

/-- The lines that answer a call for help. -/
def lines : List String :=
  [ "Simulate task files running on a spatial accelerator array"
  , ""
  , s!"Usage: {programName} [OPTIONS]"
  , ""
  , "Options:" ] ++
  entries.flatMap Entry.lines ++
  [ "  -h, --help"
  , "          Print help" ]

/-- The answer to a call for help. -/
def text : String := String.join (lines.map (· ++ "\n"))

end CoreArray.Usage
