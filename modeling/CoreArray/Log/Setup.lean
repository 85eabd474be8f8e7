import CoreArray.Log.Entity
import CoreArray.Files.Tree
set_option autoImplicit false

/-!
# Setting up a tracker (SPEC §10.2)

A tracker can be switched off.  A filter limits the asked level to the entities
that it matches; all others are then told about errors only.  Events go to the
console or to a file.
-/

namespace CoreArray

/-- What is asked of a tracker. -/
structure TrackerConfig where
  enable : Bool
  level : Level
  /-- A pattern for the entities that the level is for; all if it is empty. -/
  filter : String
  /-- The file for the events; `-` and none stand for the console. -/
  file : Option String
  deriving DecidableEq, Repr

namespace TrackerConfig

/-- What is asked where nothing is said. -/
def default : TrackerConfig := ⟨true, .warn, "", none⟩

instance : Inhabited TrackerConfig := ⟨default⟩

/-- The tracker that is asked for. -/
def tracker (config : TrackerConfig) : Except FilterFault Tracker :=
  if !config.enable then .ok .silent
  else if config.filter.isEmpty then .ok (.ofLevel config.level [])
  else (Filter.read config.filter config.level).map fun filter => .ofLevel .error [filter]

/-- The file that is created for the events, if there is one. -/
def logPath? (config : TrackerConfig) : Option String :=
  if config.enable then config.file.filter fun path => path != "-" else none

end TrackerConfig

/-- Why a tracker cannot be set up. -/
inductive SetupFault where
  | filter (fault : FilterFault)
  | file (path : String) (fault : FileFault)
  deriving DecidableEq, Repr, Inhabited

/-- The report of a fault. -/
def SetupFault.message : SetupFault → String
  | filter fault => fault.message
  | file path fault => s!"Tracker configuration error: Failed to create {path}: {fault.message}"

/-- A tracker that is set up: the file for its events, if it has one, and the
files as they are once that file is created. -/
structure TrackerSetup where
  tracker : Tracker
  place : Option FilePath
  files : FileTree
  deriving Inhabited

namespace TrackerSetup

/-- A tracker with a new file for its events. -/
def create (tracker : Tracker) (path : String) (files : FileTree) :
    Except SetupFault TrackerSetup :=
  match files.create path with
  | .error fault => .error (.file path fault)
  | .ok (place, files) => .ok ⟨tracker, some place, files⟩

/-- Set up the tracker that is asked for. -/
def ofConfig (config : TrackerConfig) (files : FileTree) : Except SetupFault TrackerSetup :=
  match config.tracker, config.logPath? with
  | .error fault, _ => .error (.filter fault)
  | .ok tracker, none => .ok ⟨tracker, none, files⟩
  | .ok tracker, some path => create tracker path files

/-- The directory for the traces of single files. -/
def traceDirectory : String := "traces"

/-- A tracker of everything into a file for traces, named like another file. -/
def forTraces (path : String) (files : FileTree) : Except SetupFault TrackerSetup :=
  let stem := (fileStem? path).getD ""
  create (.ofLevel .trace []) s!"{traceDirectory}/{stem}.log" (files.makeDirectory traceDirectory)

/-- The files once the events are written. -/
def finish (setup : TrackerSetup) (events : List Event) : FileTree :=
  setup.place.elim setup.files fun place => setup.files.write place (logText events)

end TrackerSetup

/-- Whether patterns and events match one to one. -/
def expected : List String → List Event → Bool
  | [], [] => true
  | pattern :: patterns, event :: events =>
      (Pattern.read pattern).any (·.occursIn event.line) && expected patterns events
  | _, _ => false

end CoreArray
