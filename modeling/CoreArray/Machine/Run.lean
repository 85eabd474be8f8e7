import CoreArray.Machine.Step
set_option autoImplicit false

/-!
# Runs of a machine (SPEC §10.10)

A run steps a machine until it has finished, fails, is deadlocked or reaches the
limit of cycles.  From time to time it looks for a deadlock: a machine that has
work left, but nothing executing or travelling, and that has not changed since
the last look, is stuck.

A run is given by the step that it repeats.  `runFrom` takes a number of cycles as
fuel; a clock of 64 bits bounds every run.
-/

namespace CoreArray

/-- Why a run fails. -/
inductive RunFault where
  | step (fault : StepFault)
  | deadlock (cycle : Cycle)
  deriving DecidableEq, Inhabited

/-- The report of a fault. -/
def RunFault.message : RunFault → String
  | step fault => fault.message
  | deadlock cycle => s!"deadlock detected at cycle {cycle}"

/-- How a run ends. -/
inductive Ending where
  /-- All cores have finished. -/
  | finished
  /-- The limit of cycles is reached. -/
  | limited
  | failed (fault : RunFault)
  /-- The clock is used up. -/
  | outOfCycles
  deriving DecidableEq, Inhabited

/-- Whether a run ends well. -/
def Ending.result : Ending → Except RunFault Unit
  | failed fault => .error fault
  | _ => .ok ()

/-- A run so far: the machine, the events and what an observer noted. -/
structure Run (α : Type) where
  machine : Machine
  events : Array Event
  seen : Array α
  deriving Inhabited

namespace Run

variable {α : Type}

/-- A run that has not begun. -/
def ofMachine (machine : Machine) : Run α := ⟨machine, #[], #[]⟩

/-- A run with more events. -/
def tell (run : Run α) (events : List Event) : Run α :=
  { run with events := run.events ++ events }

end Run

namespace Machine

/-- Whether the limit of cycles is reached. -/
def isAtLimit (machine : Machine) : Bool :=
  machine.config.maxCycles != 0 && machine.config.maxCycles ≤ machine.cycle

/-- Whether it is time to look for a deadlock. -/
def isCheckDue (machine : Machine) : Bool :=
  machine.config.deadlockInterval != 0 && machine.cycle % machine.config.deadlockInterval == 0

/-- Whether there is work left but nothing executes or travels. -/
def isWaiting (machine : Machine) : Bool :=
  !machine.isFinished && machine.network.inFlight == 0 && !machine.isBusy

/-- Whether a machine waits and has not changed since the last look. -/
def isStuck (machine : Machine) : Bool :=
  machine.isWaiting && machine.lastSnapshot == some machine.snapshot

/-- The machine after a look for a deadlock. -/
def keepSnapshot (machine : Machine) : Machine :=
  { machine with lastSnapshot := some machine.snapshot }

/-- What is told of a deadlock. -/
def deadlockEvents (watch : Watch) (machine : Machine) : List Event :=
  watch.say machine.id .error
      s!"no progress in the last {machine.config.deadlockInterval} cycles" ++
    machine.cores.flatMap fun core =>
      watch.say machine.id .error
        (String.join ((core.report machine.credits).map (· ++ "\n")))

/-- What a run does with a machine that has just been stepped: it goes on, unless
it is time to look for a deadlock and there is one. -/
def lookForDeadlock {α : Type} (watch : Watch) (run : Run α) : Run α × Option RunFault :=
  let machine := run.machine
  if machine.isCheckDue then
    let kept := { run with machine := machine.keepSnapshot }
    if machine.isStuck then
      (kept.tell (machine.deadlockEvents watch), some (.deadlock machine.cycle))
    else (kept, none)
  else (run, none)

/-- One cycle of a run: a step, the observation and the look for a deadlock. -/
def runCycle {α : Type} (take : Machine → Step) (watch : Watch) (observe : Machine → List α)
    (run : Run α) : Run α × Option RunFault :=
  let step := take run.machine
  let run := { run.tell step.events with machine := step.machine }
  match step.result with
  | .error fault => (run, some (.step fault))
  | .ok () => lookForDeadlock watch { run with seen := run.seen ++ observe step.machine }

/-- Go on with a run for some cycles. -/
def runFrom {α : Type} (take : Machine → Step) (watch : Watch) (observe : Machine → List α) :
    (cycles : Nat) → Run α → Run α × Ending
  | 0, run => (run, .outOfCycles)
  | cycles + 1, run =>
      let machine := run.machine
      if machine.isFinished then
        (run.tell (watch.say machine.id .info
          s!"all cores finished at cycle {machine.cycle}"), .finished)
      else if machine.isAtLimit then
        (run.tell (watch.say machine.id .warn
          s!"stopped at the cycle limit {machine.config.maxCycles} before finishing"), .limited)
      else
        match runCycle take watch observe run with
        | (run, some fault) => (run, .failed fault)
        | (run, none) => runFrom take watch observe cycles run

/-- Run a machine under an arbiter for at most some cycles. -/
def runForWith {α : Type} (arbiter : Arbiter) (watch : Watch) (observe : Machine → List α)
    (cycles : Nat) (machine : Machine) : Run α × Ending :=
  runFrom (stepWith arbiter watch) watch observe cycles (.ofMachine machine)

/-- Run a machine for at most some cycles. -/
def runFor {α : Type} (watch : Watch) (observe : Machine → List α) (cycles : Nat)
    (machine : Machine) : Run α × Ending :=
  machine.runForWith .seeded watch observe cycles

/-- Run a machine to the end of its clock, noting what an observer sees after
each step. -/
def runObserved {α : Type} (watch : Watch) (observe : Machine → List α) (machine : Machine) :
    Run α × Ending :=
  machine.runFor watch observe (lastCycle + 1)

/-- Run a machine. -/
def run (watch : Watch) (machine : Machine) : Run Unit × Ending :=
  machine.runObserved watch fun _ => []

end Machine

end CoreArray
