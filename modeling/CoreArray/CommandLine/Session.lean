import CoreArray.CommandLine.Options
import CoreArray.Config.Load
import CoreArray.Log.Buffer
import CoreArray.Machine.Build
import CoreArray.Machine.Run
set_option autoImplicit false

/-!
# Sessions (SPEC §10.11)

A session is one use of the program: a machine is built and run as the options
ask, and what there is to say is put together.  Events for the console go through a
buffer, which is emptied when the run is over, so that most of them stand between
what is said of the machine that was built and of the run that was made.
-/

namespace CoreArray

/-- Why a session fails. -/
inductive SessionFault where
  | config (fault : Config.LoadFault)
  | top (fault : RepeatedEntity)
  | build (fault : BuildFault)
  | run (fault : RunFault)
  deriving DecidableEq, Inhabited

/-- The report of a fault. -/
def SessionFault.message : SessionFault → String
  | config fault => fault.message
  | top fault => fault.message
  | build fault => fault.message
  | run fault => fault.message

/-- What a session says. -/
structure Session where
  /-- What is told while the machine is built. -/
  opening : List Event
  /-- The lines before the run. -/
  before : List String
  /-- What is told while the machine runs. -/
  running : List Event
  /-- The lines after the run. -/
  after : List String
  fault : Option SessionFault
  deriving Inhabited

namespace Session

/-- What is said of a machine that was built. -/
def loadedLine (machine : Machine) : String :=
  s!"Loaded {machine.cores.length} cores with {machine.pending} micro-instructions"

/-- What is said of a run that was made. -/
def ranLines (machine : Machine) : List String :=
  s!"Ran simulation. Cycle now {machine.cycle}" ::
    machine.cores.map fun core =>
      s!"core {core.node}: busy {core.busy} cycles, idle {core.idle} cycles"

/-- The session of a machine that was built, given what was told before. -/
def ofMachine (options : Options) (journal : Journal) (machine : Machine) : Session :=
  let (run, ending) := machine.run journal.tracker.watch
  let opening := journal.events
  let before := [loadedLine machine]
  let running := run.events.toList
  match ending.result with
  | .error fault => { opening, before, running, after := [], fault := some (.run fault) }
  | .ok () =>
      { opening
        before
        running
        after := ranLines run.machine ++ if options.stats then run.machine.report else []
        fault := none }

/-- A session that says nothing but its fault. -/
def failed (opening : List Event) (fault : SessionFault) : Session :=
  { opening, before := [], running := [], after := [], fault := some fault }

/-- All that is told. -/
def events (session : Session) : List Event := session.opening ++ session.running

/-- The configuration of a session. -/
def configOf (options : Options) (read : TextReader) (env : Environment) :
    Except Config.LoadFault Config :=
  (Config.load read options.confFile env).map options.overrides.apply

/-- Hold a session. -/
def hold (options : Options) (tracker : Tracker) (read : TextReader)
    (env : Environment) : Session :=
  match configOf options read env with
  | .error fault => failed [] (.config fault)
  | .ok config =>
      match tracker.enterTop "top" with
      | (.error fault, _) => failed [] (.top fault)
      | (.ok top, tracker) =>
          match (Machine.build read config top).start tracker with
          | (.error fault, journal) => failed journal.events (.build fault)
          | (.ok machine, journal) => ofMachine options journal machine

/-- The report of a session that failed. -/
def errorLine? (session : Session) : Option String :=
  session.fault.map fun fault => s!"Error: Error: {fault.message}"

/-- All that a session says on the console, the events included if they are told
there. -/
def consoleText (session : Session) (logsHere : Bool) : String :=
  let opening := if logsHere then LogBuffer.ofEvents session.opening else .empty
  opening.passed ++ String.join (session.before.map (· ++ "\n")) ++ opening.waiting ++
    (if logsHere then logText session.running else "") ++
    String.join (session.after.map (· ++ "\n"))

/-- The paths that a machine of a configuration is read from. -/
def pathsOf (config : Config) : List String :=
  config.latencyFile :: config.routingFile ::
    (List.range config.arraySize).filterMap fun core => (config.taskPath core).toOption

end Session

/-- How the program ended: its exit code, what it wrote to its two outputs, and
the files afterwards. -/
structure Exit where
  code : Nat
  out : String
  err : String
  files : FileTree
  deriving Inhabited

namespace Exit

/-- The end of a program that could not set up its tracker. -/
def refused (files : FileTree) (fault : SetupFault) : Exit :=
  { code := 1, out := "", err := s!"Error: {fault.message}\n", files }

/-- The end of a session; its events go to the console if there is no file for
them. -/
def ofSession (session : Session) (setup : TrackerSetup) : Exit :=
  { code := if session.fault.isSome then 1 else 0
    out := session.consoleText setup.place.isNone
    err := session.errorLine?.elim "" (· ++ "\n")
    files := setup.finish session.events }

/-- The end of the program with some options in a tree of files. -/
def ofOptions (options : Options) (files : FileTree) (env : Environment) :
    Exit :=
  match TrackerSetup.ofConfig options.trackerConfig files with
  | .error fault => refused files fault
  | .ok setup =>
      ofSession (Session.hold options setup.tracker setup.files.readText env) setup

/-- The end of the program called with some words in a tree of files. -/
def ofWords (words : List String) (files : FileTree) (env : Environment) :
    Exit :=
  match Options.read words with
  | .misuse => { code := 2, out := "", err := Usage.text, files }
  | .help => { code := 0, out := Usage.text, err := "", files }
  | .run options => ofOptions options files env

end Exit

end CoreArray
