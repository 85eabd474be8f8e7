import CoreArray.Machine.Basic
set_option autoImplicit false

/-!
# Steps of a machine (SPEC §10.10)

In a step all cores bring their credit up to date, then all cores tick, then the
network moves packets.  A step that fails stops where it is: the cores that have
ticked stay changed, the network may not have moved, and the clock stays.
-/

namespace CoreArray

/-- Why a step fails. -/
inductive StepFault where
  | credit (fault : CreditBoard.Fault)
  | tick (fault : TickFault)
  | network (fault : NetworkFault)
  deriving DecidableEq, Inhabited

/-- The report of a fault. -/
def StepFault.message : StepFault → String
  | credit fault => fault.message
  | tick fault => fault.message
  | network fault => fault.message

/-- What came of the ticks of several cores. -/
structure Round where
  cores : List Core
  credits : CreditBoard
  /-- The ticks, in their order. -/
  ticks : List Tick
  result : Except TickFault Unit
  deriving Inhabited

/-- The events of the ticks of a round. -/
def Round.events (round : Round) : List Event := round.ticks.flatMap Tick.events

/-- What came of a step. -/
structure Step where
  machine : Machine
  /-- The ticks of the cores, in their order. -/
  ticks : List Tick
  events : List Event
  result : Except StepFault Unit
  deriving Inhabited

namespace Machine

/-- Bring the credit of cores up to date, up to the first core that the board
does not have. -/
def refreshCredits (credits : CreditBoard) :
    List Core → Except CreditBoard.Fault Unit × CreditBoard
  | [] => (.ok (), credits)
  | core :: cores =>
      match core.refreshCredit credits with
      | .error fault => (.error fault, credits)
      | .ok credits => refreshCredits credits cores

/-- Let cores tick one after the other, up to the first that fails. -/
def tickCores (arbiter : Arbiter) (watch : Watch) (cycle : Cycle) (credits : CreditBoard) :
    List Core → Round
  | [] => ⟨[], credits, [], .ok ()⟩
  | core :: cores =>
      let tick := core.tickWith arbiter watch credits cycle
      match tick.result with
      | .error fault => ⟨tick.core :: cores, tick.credits, [tick], .error fault⟩
      | .ok () =>
          let round := tickCores arbiter watch cycle tick.credits cores
          { round with cores := tick.core :: round.cores, ticks := tick :: round.ticks }

/-- Move packets between the cores. -/
def movePackets (watch : Watch) (machine : Machine) :
    Machine × List Event × Except NetworkFault Unit :=
  let transit := machine.network.step watch machine.cycle machine.ports
  ({ machine with
      network := transit.network
      cores := List.zipWith withPort machine.cores transit.ports },
    transit.events, transit.result)

/-- End a cycle in which the cores have ticked: move packets and advance the
clock, unless a tick failed. -/
def endCycle (watch : Watch) (machine : Machine) (round : Round) : Step :=
  let machine := { machine with cores := round.cores, credits := round.credits }
  match round.result with
  | .error fault => ⟨machine, round.ticks, round.events, .error (.tick fault)⟩
  | .ok () =>
      match machine.movePackets watch with
      | (machine, events, .error fault) =>
          ⟨machine, round.ticks, round.events ++ events, .error (.network fault)⟩
      | (machine, events, .ok ()) =>
          ⟨{ machine with cycle := machine.cycle + 1 }, round.ticks,
            round.events ++ events, .ok ()⟩

/-- Simulate one cycle, given how the cores tick when the credit is up to
date. -/
def stepBy (ticking : Cycle → CreditBoard → List Core → Round) (watch : Watch)
    (machine : Machine) : Step :=
  match refreshCredits machine.credits machine.cores with
  | (.error fault, credits) => ⟨{ machine with credits }, [], [], .error (.credit fault)⟩
  | (.ok (), credits) =>
      machine.endCycle watch (ticking machine.cycle credits machine.cores)

/-- Simulate one cycle under an arbiter. -/
def stepWith (arbiter : Arbiter) (watch : Watch) (machine : Machine) : Step :=
  machine.stepBy (tickCores arbiter watch) watch

/-- Simulate one cycle. -/
def step (watch : Watch) (machine : Machine) : Step := machine.stepWith .seeded watch

/-- Take steps, at most so many, up to the first that fails. -/
def steps (watch : Watch) (machine : Machine) : (count : Nat) → List Step
  | 0 => []
  | count + 1 =>
      let step := machine.step watch
      match step.result with
      | .error _ => [step]
      | .ok () => step :: step.machine.steps watch count

end Machine

end CoreArray
