import CoreArray.Core.Basic
set_option autoImplicit false

/-!
# Ticks (SPEC §4.5)

At a tick a core that is neither finished nor busy chooses one ready track.  The
choice is left to an `Arbiter`; what holds of a core under every arbiter does not
depend on its seed.  If the instruction at the head of that track has completed it
leaves the track; the instruction then at the head, if there is one, is handed to
its unit.  A tick also counts the tick before it as busy or idle.

A tick that fails changes the core too: the ticks are counted, the random words
are drawn and the completed instruction has left.  Only the marker of the chosen
track stays as it was.
-/

namespace CoreArray

/-- Why a tick fails. -/
inductive TickFault where
  | noUnit (instr : Instruction) (node : Node)
  | exec (fault : ExecFault)
  deriving DecidableEq, Inhabited

/-- The report of a fault. -/
def TickFault.message : TickFault → String
  | noUnit instr node => s!"no functional unit named {instr.unit} for {instr} on core {node}"
  | exec fault => fault.message

/-- What a tick tried on the chosen track. -/
structure Attempt where
  track : Nat
  instr : Instruction
  reply : Except TickFault Outcome
  deriving Inhabited

/-- What came of a tick. -/
structure Tick where
  core : Core
  credits : CreditBoard
  /-- The instruction that left its track, with the track. -/
  retired : Option (Nat × Instruction)
  attempt : Option Attempt
  events : List Event
  deriving Inhabited

namespace Tick

/-- A tick at which nothing left a track and nothing was tried. -/
def quiet (core : Core) (credits : CreditBoard) : Tick := ⟨core, credits, none, none, []⟩

/-- Whether a tick failed, and why. -/
def result (tick : Tick) : Except TickFault Unit :=
  match tick.attempt with
  | some ⟨_, _, .error fault⟩ => .error fault
  | _ => .ok ()

end Tick

/-- How a core orders the tracks that can go on: in any order, with the generator
afterwards. -/
structure Arbiter where
  draw : Core → List Nat → List Nat × Generator
  /-- Every track that can go on has its place in the order, and no other. -/
  draw_perm : ∀ core candidates, (draw core candidates).1.Perm candidates

/-- The arbiter that shuffles with the generator of the core. -/
def Arbiter.seeded : Arbiter where
  draw core candidates := core.generator.shuffle candidates
  draw_perm core candidates := core.generator.shuffle_perm candidates

namespace Core

/-- Count the last tick as busy or idle when the clock has moved on since. -/
def countTick (core : Core) (cycle : Cycle) : Core :=
  match core.lastTick with
  | none => { core with lastTick := some cycle }
  | some last =>
      if cycle ≤ last then core
      else if core.isBusy last then { core with busy := core.busy + 1, lastTick := some cycle }
      else { core with idle := core.idle + 1, lastTick := some cycle }

/-! ## The choice of a track -/

/-- The numbers of the tracks that can go on at a cycle. -/
def candidates (core : Core) (cycle : Cycle) : List Nat :=
  (Text.numberFrom 0 core.tracks).filterMap fun (index, track) =>
    if track.isReady cycle then some index else none

/-- Whether the last attempt on a track was taken up by its unit. -/
def hasMarker (core : Core) (index : Nat) : Bool :=
  (core.tracks[index]?).any fun track => track.marker.isSet

/-- The choice from ordered candidates: the first one whose instruction has
completed, otherwise the first. -/
def choose (core : Core) (ordered : List Nat) : Option Nat :=
  (ordered.find? core.hasMarker).or ordered.head?

/-- Let an arbiter choose a track, one with a completed instruction if there is
one. -/
def select (arbiter : Arbiter) (core : Core) (cycle : Cycle) : Option Nat × Core :=
  let (ordered, generator) := arbiter.draw core (core.candidates cycle)
  (core.choose ordered, { core with generator })

/-! ## The turn of a track -/

/-- Replace a track. -/
def setTrack (core : Core) (index : Nat) (track : Track) : Core :=
  { core with tracks := core.tracks.set index track }

/-- The instruction that leaves a track whose turn it is. -/
def retiring? (track : Track) : Option Instruction :=
  if track.marker.isSet then track.head? else none

/-- A track without the instruction that leaves it. -/
def afterRetiring (track : Track) : Track :=
  if track.marker.isSet then { track with instructions := track.instructions.tail } else track

/-- What a core says of an instruction that was tried. -/
def outcomeEvents (watch : Watch) (core : Core) (index : Nat) (instr : Instruction) :
    Outcome → List Event
  | .complete doneAt =>
      watch.issue core.spec.ids.core index instr.text ++
        watch.say core.spec.ids.core .trace s!"t{index} busy until {doneAt}"
  | .notYet => watch.stall core.spec.ids.core index instr.text

/-- Hand the instruction at the head of a track to its unit. -/
def attempt (watch : Watch) (core : Core) (credits : CreditBoard) (cycle : Cycle)
    (index : Nat) (track : Track) (instr : Instruction) : Tick :=
  match UnitName.ofText? instr.unit with
  | none =>
      { core
        credits
        retired := none
        attempt := some ⟨index, instr, .error (.noUnit instr core.node)⟩
        events := watch.say core.spec.ids.core .error s!"no functional unit executes {instr}" }
  | some unit =>
      let execution := core.path.run watch core.spec credits unit instr cycle
      let core := { core with path := execution.path }
      match execution.reply with
      | .error fault =>
          { core
            credits := execution.credits
            retired := none
            attempt := some ⟨index, instr, .error (.exec fault)⟩
            events := execution.events }
      | .ok outcome =>
          { core := core.setTrack index { track with marker := .ofOutcome outcome }
            credits := execution.credits
            retired := none
            attempt := some ⟨index, instr, .ok outcome⟩
            events := execution.events ++ core.outcomeEvents watch index instr outcome }

/-- The turn of a track: retire its completed instruction and try the next. -/
def advance (watch : Watch) (core : Core) (credits : CreditBoard) (cycle : Cycle)
    (index : Nat) (track : Track) : Tick :=
  let retired := (retiring? track).map fun instr => (index, instr)
  let retirement := match retired with
    | some (_, instr) => watch.retire core.spec.ids.core index instr.text
    | none => []
  let track := afterRetiring track
  let core := core.setTrack index track
  match track.head? with
  | none => { Tick.quiet core credits with retired, events := retirement }
  | some instr =>
      let tick := core.attempt watch credits cycle index track instr
      { tick with retired, events := retirement ++ tick.events }

/-- The turn of a core that is neither finished nor busy. -/
def turn (arbiter : Arbiter) (watch : Watch) (core : Core) (credits : CreditBoard)
    (cycle : Cycle) : Tick :=
  let (choice, core) := core.select arbiter cycle
  match choice.bind fun index => (core.tracks[index]?).map fun track => (index, track) with
  | none => Tick.quiet core credits
  | some (index, track) => core.advance watch credits cycle index track

/-- One tick of the clock under an arbiter. -/
def tickWith (arbiter : Arbiter) (watch : Watch) (core : Core) (credits : CreditBoard)
    (cycle : Cycle) : Tick :=
  let clock := watch.setCycle core.spec.ids.core cycle
  let core := core.countTick cycle
  let tick :=
    if core.isFinished cycle || core.isBusy cycle then Tick.quiet core credits
    else core.turn arbiter watch credits cycle
  { tick with events := clock ++ tick.events }

/-- One tick of the clock. -/
def tick (watch : Watch) (core : Core) (credits : CreditBoard) (cycle : Cycle) : Tick :=
  core.tickWith .seeded watch credits cycle

/-- Tick from a cycle on, at most so many times, up to the first tick that fails
or leaves the core finished: the ticks with their cycles. -/
def ticks (watch : Watch) (core : Core) (credits : CreditBoard) :
    (count : Nat) → Cycle → List (Cycle × Tick)
  | 0, _ => []
  | count + 1, cycle =>
      let tick := core.tick watch credits cycle
      if tick.result.isOk && !tick.core.isFinished cycle then
        (cycle, tick) :: tick.core.ticks watch tick.credits count (cycle + 1)
      else [(cycle, tick)]

end Core

end CoreArray
