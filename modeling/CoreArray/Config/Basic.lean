import CoreArray.Datapath.Basic
import CoreArray.Files.Tree
set_option autoImplicit false

/-!
# Configurations (SPEC §10.4)

A configuration says how large an array is, where its files are and how it is
run.
-/

namespace CoreArray

/-- The configuration of an array. -/
structure Config where
  /-- Number of cores, which are the nodes of the network. -/
  arraySize : Nat
  taskDir : String
  taskFiles : List String
  /-- For each core the number of its task file; if the list is empty the number
  is that of the core. -/
  assignedTasks : List Nat
  latencyFile : String
  routingFile : String
  /-- Packets that may wait at a node whose credit is open. -/
  threshold : Nat
  channelWidth : Nat
  delivery : Delivery
  cyclesPerHop : Nat
  /-- Cycles between two deadlock checks; none at zero. -/
  deadlockInterval : Nat
  /-- Cycles after which a run is stopped; never at zero. -/
  maxCycles : Nat
  /-- The seed of the first core; each further core has the next one. -/
  seed : Nat
  deriving DecidableEq, Repr

namespace Config

/-- The configuration that holds where nothing is said. -/
def default : Config :=
  { arraySize := 4
    taskDir := "tasks"
    taskFiles := []
    assignedTasks := []
    latencyFile := "latency.txt"
    routingFile := "routing.txt"
    threshold := 2
    channelWidth := 128
    delivery := .unicast
    cyclesPerHop := 1
    deadlockInterval := 1000
    maxCycles := 0
    seed := 0 }

instance : Inhabited Config := ⟨default⟩

/-- A core without a task file. -/
inductive TaskFault where
  | unassigned (core : Node)
  | noFile (index : Nat) (core : Node)
  deriving DecidableEq, Repr, Inhabited

/-- The report of a core without a task file. -/
def TaskFault.message : TaskFault → String
  | unassigned core => s!"no task assigned to core {core}"
  | noFile index core => s!"no task file {index} for core {core}"

/-- The number of the task file of a core. -/
def taskIndex (config : Config) (core : Node) : Except TaskFault Nat :=
  if config.assignedTasks.isEmpty then .ok core
  else
    match config.assignedTasks[core]? with
    | some index => .ok index
    | none => .error (.unassigned core)

/-- The path of the task file of a core. -/
def taskPath (config : Config) (core : Node) : Except TaskFault String :=
  match config.taskIndex core with
  | .error fault => .error fault
  | .ok index =>
      match config.taskFiles[index]? with
      | some file => .ok (joinPath config.taskDir file)
      | none => .error (.noFile index core)

/-- Values that take the place of those of a configuration. -/
structure Overrides where
  arraySize : Option Nat
  taskDir : Option String
  taskFiles : Option (List String)
  assignedTasks : Option (List Nat)
  latencyFile : Option String
  routingFile : Option String
  threshold : Option Nat
  channelWidth : Option Nat
  delivery : Option Delivery
  cyclesPerHop : Option Nat
  deadlockInterval : Option Nat
  maxCycles : Option Nat
  seed : Option Nat
  deriving DecidableEq, Repr, Inhabited

/-- No value given. -/
def Overrides.none : Overrides :=
  ⟨.none, .none, .none, .none, .none, .none, .none, .none, .none, .none, .none, .none, .none⟩

/-- Put the given values in place. -/
def Overrides.apply (o : Overrides) (config : Config) : Config :=
  { arraySize := o.arraySize.getD config.arraySize
    taskDir := o.taskDir.getD config.taskDir
    taskFiles := o.taskFiles.getD config.taskFiles
    assignedTasks := o.assignedTasks.getD config.assignedTasks
    latencyFile := o.latencyFile.getD config.latencyFile
    routingFile := o.routingFile.getD config.routingFile
    threshold := o.threshold.getD config.threshold
    channelWidth := o.channelWidth.getD config.channelWidth
    delivery := o.delivery.getD config.delivery
    cyclesPerHop := o.cyclesPerHop.getD config.cyclesPerHop
    deadlockInterval := o.deadlockInterval.getD config.deadlockInterval
    maxCycles := o.maxCycles.getD config.maxCycles
    seed := o.seed.getD config.seed }

end Config

end CoreArray
