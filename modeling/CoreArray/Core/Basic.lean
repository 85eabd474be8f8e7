import CoreArray.Datapath.Units
import CoreArray.Arbiter.Shuffle
set_option autoImplicit false

/-!
# Cores (SPEC §4.5, §10.8)

A core runs several tracks of instructions, of which one at a time is
executing.  The marker of a track says how the last attempt at its first
instruction ended: that instruction stays at the head of the track while it
executes and leaves only when the track is chosen again.
-/

namespace CoreArray

/-- A queue of instructions that are executed in order. -/
structure Track where
  instructions : List Instruction
  marker : Marker
  deriving DecidableEq, Repr, Inhabited

namespace Track

/-- A track that has not begun. -/
def ofInstructions (instructions : List Instruction) : Track := ⟨instructions, .unset⟩

/-- The first instruction of a track. -/
def head? (track : Track) : Option Instruction := track.instructions.head?

/-- Number of instructions that are left. -/
def length (track : Track) : Nat := track.instructions.length

/-- Whether no instruction is left. -/
def isEmpty (track : Track) : Bool := track.instructions.isEmpty

/-- Whether an instruction of the track executes at a cycle. -/
def isBusy (track : Track) (cycle : Cycle) : Bool := track.marker.isAfter cycle

/-- Whether the track can go on at a cycle. -/
def isReady (track : Track) (cycle : Cycle) : Bool := !track.isEmpty && !track.isBusy cycle

/-- Whether nothing of the track is left at a cycle. -/
def isFinished (track : Track) (cycle : Cycle) : Bool := track.isEmpty && !track.isBusy cycle

/-- A track in a text: its marker and the number of instructions left. -/
def text (track : Track) : String := s!"{track.marker.text}:{track.length}"

/-- What the deadlock check keeps of a track. -/
def outline (track : Track) : Marker × Nat := (track.marker, track.length)

end Track

/-- A core. -/
structure Core where
  spec : CoreSpec
  path : Datapath
  tracks : List Track
  generator : Generator
  /-- Past ticks at which a track was executing. -/
  busy : Nat
  /-- Past ticks at which none was. -/
  idle : Nat
  /-- The last tick, if there was one. -/
  lastTick : Option Cycle
  deriving DecidableEq, Inhabited

namespace Core

/-- A core that has not begun. -/
def ofTracks (spec : CoreSpec) (tracks : List (List Instruction)) (tensors : TensorTable)
    (seed : Nat) : Core :=
  { spec
    path := .ofTensors tensors
    tracks := tracks.map .ofInstructions
    generator := .ofSeed seed
    busy := 0
    idle := 0
    lastTick := none }

/-- What a core says when it is made. -/
def openingEvents (watch : Watch) (core : Core) : List Event :=
  watch.sayAll core.spec.ids.core .info
    [ "core ", toString core.spec.node, " has ", toString core.tracks.length
    , " parallel tracks of ", "-".intercalate (core.tracks.map fun track => toString track.length)
    , " instructions" ]

/-- The node of a core. -/
def node (core : Core) : Node := core.spec.node

/-- Whether a track executes at a cycle. -/
def isBusy (core : Core) (cycle : Cycle) : Bool := core.tracks.any (·.isBusy cycle)

/-- Whether nothing is left at a cycle. -/
def isFinished (core : Core) (cycle : Cycle) : Bool := core.tracks.all (·.isFinished cycle)

/-- Number of instructions left on all tracks. -/
def pending (core : Core) : Nat :=
  core.tracks.foldl (fun count track => count + track.length) 0

/-- What the deadlock check keeps of a core. -/
def snapshot (core : Core) : List (Marker × Nat) := core.tracks.map Track.outline

/-- Show in the credit of a core whether it takes more packets. -/
def refreshCredit (core : Core) (credits : CreditBoard) :
    Except CreditBoard.Fault CreditBoard :=
  core.path.refreshCredit core.spec credits

/-! ## Texts -/

/-- The tracks of a core in a text, a word per track. -/
def tracksText (core : Core) : String := " ".intercalate (core.tracks.map Track.text)

/-- A track that has a first instruction, as a line of the report on its core. -/
def trackLine? (index : Nat) (track : Track) : Option String :=
  track.head?.map fun head =>
    s!"  t{index} ({track.length} left, ready {track.marker.text}): {head}"

/-- The tracks of a core in the report. -/
def trackLines (core : Core) : List String :=
  if core.tracks.all Track.isEmpty then ["  all instructions finished"]
  else (Text.numberFrom 0 core.tracks).filterMap fun (index, track) => trackLine? index track

/-- The lines of the report on a core. -/
def report (core : Core) (credits : CreditBoard) : List String :=
  s!"CORE {core.node} stats:" ::
    s!"  busy {core.busy} cycles, idle {core.idle} cycles" ::
    core.trackLines ++
    UnitName.all.map fun unit => "  " ++ core.path.unitText core.spec credits unit

end Core

end CoreArray
