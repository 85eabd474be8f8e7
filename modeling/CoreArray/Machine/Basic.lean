import CoreArray.Core.Tick
import CoreArray.Network
import CoreArray.Config.Basic
set_option autoImplicit false

/-!
# Machines (SPEC §10.10)

A machine is an array of cores with their credit board, joined by a network and
driven by one clock.  The cores are listed by their nodes.
-/

namespace CoreArray

/-- What a deadlock check keeps of a machine, to be compared with the next. -/
structure Snapshot where
  cores : List (List (Marker × Nat))
  /-- The lengths of the two queues of each port. -/
  queues : List (Nat × Nat)
  credits : CreditBoard
  inFlight : Nat
  deriving DecidableEq, Repr, Inhabited

/-- A machine. -/
structure Machine where
  id : EntityId
  config : Config
  cores : List Core
  credits : CreditBoard
  network : Network
  /-- The next cycle. -/
  cycle : Cycle
  lastSnapshot : Option Snapshot
  deriving DecidableEq, Inhabited

namespace Machine

/-- The ports of the cores. -/
def ports (machine : Machine) : List Port := machine.cores.map fun core => core.path.port

/-- A core with another port. -/
def withPort (core : Core) (port : Port) : Core :=
  { core with path := { core.path with port } }

/-- Number of instructions left on all cores. -/
def pending (machine : Machine) : Nat :=
  machine.cores.foldl (fun count core => count + core.pending) 0

/-- Whether no packet waits to be sent. -/
def isDrained (machine : Machine) : Bool :=
  machine.cores.all fun core => core.path.port.outbound.isEmpty

/-- Whether every core has finished and no packet is on its way. -/
def isFinished (machine : Machine) : Bool :=
  machine.cores.all (·.isFinished machine.cycle) && machine.network.inFlight == 0 &&
    machine.isDrained

/-- Whether a core executes an instruction. -/
def isBusy (machine : Machine) : Bool := machine.cores.any (·.isBusy machine.cycle)

/-- What a deadlock check keeps. -/
def snapshot (machine : Machine) : Snapshot :=
  { cores := machine.cores.map Core.snapshot
    queues := machine.ports.map fun port => (port.outbound.length, port.inbound.length)
    credits := machine.credits
    inFlight := machine.network.inFlight }

/-- The lines of the report on a machine. -/
def report (machine : Machine) : List String :=
  s!"cycle {machine.cycle}" :: machine.cores.flatMap fun core => core.report machine.credits

end Machine

end CoreArray
