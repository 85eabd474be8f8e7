import CoreArray.Machine.Basic
import CoreArray.Task.Compile
import CoreArray.Routing.Load
import CoreArray.Log.Entity
set_option autoImplicit false

/-!
# Building machines (SPEC §10.10)

A machine is built from a configuration and the files that it names.  The
tables shared by all cores are read before any core is made; the cores are made
one after the other, and each is an entity with its compiler and its units.
What was told before a build fails stays told.
-/

namespace CoreArray

/-- Why a machine cannot be built. -/
inductive BuildFault where
  | noCores
  | latencyFile (path : String) (fault : FileFault)
  | latency (fault : LatencyTable.Fault)
  | routing (path : String) (fault : RoutingBoard.LoadFault)
  | outside (fault : RoutingBoard.Fault)
  | taskPath (fault : Config.TaskFault)
  | task (name : String) (fault : Task.Fault)
  | interface (fault : InterfaceFault)
  | repeated (fault : RepeatedEntity)
  deriving DecidableEq, Repr, Inhabited

/-- The report of a fault. -/
def BuildFault.message : BuildFault → String
  | noCores => "the array needs at least one core"
  | latencyFile path fault => s!"Unable to read latency file {path}: {fault.message}"
  | latency fault => fault.message
  | routing path fault => fault.message path
  | outside fault => fault.message
  | taskPath fault => fault.message
  | task name fault => fault.message name
  | interface fault => fault.message
  | repeated fault => fault.message

/-- The tracker and the events so far. -/
structure Journal where
  tracker : Tracker
  events : List Event
  deriving Inhabited

/-- A step of building, which may fail but keeps the journal. -/
abbrev Build : Type → Type := ExceptT BuildFault (StateM Journal)

namespace Build

/-- Go on with a result, or fail. -/
def require {ε α : Type} (fault : ε → BuildFault) : Except ε α → Build α
  | .ok value => pure value
  | .error cause => throw (fault cause)

/-- Make an entity. -/
def enter (parent : Entity) (name : String) : Build Entity := do
  let journal ← get
  let (result, tracker) := journal.tracker.enter parent name
  set { journal with tracker }
  require .repeated result

/-- Tell what the tracker lets be told. -/
def tell (events : Watch → List Event) : Build Unit :=
  modify fun journal =>
    { journal with events := journal.events ++ events journal.tracker.watch }

/-- Run a build. -/
def start {α : Type} (build : Build α) (tracker : Tracker) : Except BuildFault α × Journal :=
  build.run.run ⟨tracker, []⟩

end Build

open Build

/-- Make the units of a core as entities: the network interface first. -/
def CoreIds.enter (core : EntityId) (parent : Entity) : Build CoreIds := do
  let ni ← Build.enter parent "ni"
  let bus ← Build.enter parent "bus"
  let cpu ← Build.enter parent "cpu"
  let acc ← Build.enter parent "acc"
  let buffer ← Build.enter parent "buffer"
  return { core, bus := bus.id, cpu := cpu.id, acc := acc.id, buffer := buffer.id, ni := ni.id }

/-- Make the units of a core: check its network interface and number them. -/
def CoreSpec.enterUnits (spec : CoreSpec) (credits : CreditBoard) (core : EntityId)
    (parent : Entity) : Build CoreSpec := do
  require .interface (spec.check credits)
  let ids ← CoreIds.enter core parent
  return { spec with ids }

/-- Make a core and tell of it. -/
def Core.start (spec : CoreSpec) (tracks : List (List Instruction)) (tensors : TensorTable)
    (seed : Nat) : Build Core := do
  let core := Core.ofTracks spec tracks tensors seed
  tell fun watch => core.openingEvents watch
  return core

namespace Machine

/-- The tables that all cores share. -/
structure Tables where
  latencies : LatencyTable
  board : RoutingBoard
  deriving DecidableEq, Inhabited

/-- Read the tables that all cores share. -/
def readTables (read : TextReader) (config : Config) (array : EntityId) : Build Tables := do
  let text ← require (.latencyFile config.latencyFile) (read config.latencyFile)
  let latencies ← require .latency (LatencyTable.read text)
  let loaded ← require (.routing config.routingFile)
    (RoutingBoard.load read config.routingFile)
  tell fun watch => loaded.events watch array config.routingFile
  require .outside (loaded.board.checkNodes config.arraySize)
  return ⟨latencies, loaded.board⟩

/-- Compile the task of a core. -/
def compileTask (read : TextReader) (config : Config) (node : Node) (core : Entity) :
    Build Task := do
  let compiler ← enter core "compiler"
  let path ← require .taskPath (config.taskPath node)
  let task ← require (.task path) (Task.compileFile read path)
  tell fun watch => task.events watch compiler.id path
  return task

/-- What never changes in a core of a machine, its numbers apart. -/
def specOf (config : Config) (tables : Tables) (node : Node) : CoreSpec :=
  { node
    threshold := config.threshold
    channelWidth := config.channelWidth
    delivery := config.delivery
    latencies := tables.latencies
    board := tables.board
    ids := default }

/-- Build a core. -/
def buildCore (read : TextReader) (config : Config) (tables : Tables) (credits : CreditBoard)
    (array : Entity) (node : Node) : Build Core := do
  let entity ← enter array s!"core{node}"
  let task ← compileTask read config node entity
  let spec ← (specOf config tables node).enterUnits credits entity.id entity
  Core.start spec task.tracks task.tensors (config.seed + node)

/-- Build cores. -/
def buildCores (read : TextReader) (config : Config) (tables : Tables) (credits : CreditBoard)
    (array : Entity) : List Node → Build (List Core)
  | [] => return []
  | node :: nodes => do
      let core ← buildCore read config tables credits array node
      let cores ← buildCores read config tables credits array nodes
      return core :: cores

/-- Build the machine whose array and network are made already. -/
def buildOn (read : TextReader) (config : Config) (array network : Entity) : Build Machine := do
  if config.arraySize = 0 then throw .noCores
  let tables ← readTables read config array.id
  let credits := CreditBoard.allOpened config.arraySize
  let cores ← buildCores read config tables credits array (List.range config.arraySize)
  tell fun watch => watch.sayAll array.id .info
    ["built an array of ", toString config.arraySize, " cores (", config.delivery.text, " delivery)"]
  return {
    id := array.id
    config
    cores
    credits
    network := .empty network.id config.cyclesPerHop
    cycle := 0
    lastSnapshot := none }

/-- Build a machine with a network of its own. -/
def build (read : TextReader) (config : Config) (parent : Entity) : Build Machine := do
  let array ← enter parent "array"
  let network ← enter array "network"
  buildOn read config array network

/-- Build a machine on a network that is made first, beside it. -/
def buildWithNetwork (read : TextReader) (config : Config) (parent : Entity) :
    Build Machine := do
  let network ← enter parent "network"
  let array ← enter parent "array"
  buildOn read config array network

end Machine

end CoreArray
