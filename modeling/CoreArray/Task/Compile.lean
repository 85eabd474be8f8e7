import CoreArray.Task.Source
import CoreArray.Log.Event
set_option autoImplicit false

/-!
# Compiling tasks (SPEC §4.1)

A source is compiled once it is read: inputs that are not declared become
tensors of unknown shape, every output is bound to its destinations, of which it
must have at least one, and the operators are lowered track by track.
-/

namespace CoreArray

/-- A compiled task: the instructions of each track, and the tensors. -/
structure Task where
  tracks : List (List Instruction)
  tensors : TensorTable
  deriving DecidableEq, Inhabited

namespace Task

/-- Tensors with placeholders for inputs that are not among them. -/
def ensureInputs (tensors : TensorTable) (ops : List Operator) : TensorTable :=
  (ops.flatMap Operator.inputs).foldl TensorTable.ensure tensors

/-- Bind the outputs of operators; the first output without destinations is
reported. -/
def bindOperators (declared : Destinations) : List Operator → Except Fault (List Operator)
  | [] => .ok []
  | op :: ops =>
      match op.bind declared with
      | (.error id, _) => .error (.mismatch id)
      | (.ok (), op) => (bindOperators declared ops).map (op :: ·)

/-- Bind the outputs of the operators of all tracks. -/
def bindTracks (declared : Destinations) :
    List (List Operator) → Except Fault (List (List Operator))
  | [] => .ok []
  | track :: tracks =>
      match bindOperators declared track with
      | .error fault => .error fault
      | .ok track => (bindTracks declared tracks).map (track :: ·)

/-- The instructions of a track of operators. -/
def lowerTrack (ops : List Operator) : List Instruction :=
  ops.flatMap fun op => op.discoverStationary.lower

/-- Compile a source that has been read. -/
def ofSource (source : Source) : Except Fault Task :=
  (bindTracks source.dests source.tracks).map fun tracks =>
    { tracks := tracks.map lowerTrack
      tensors := ensureInputs source.tensors source.operators }

/-- Compile a text. -/
def compile (text : String) : Except Fault Task := do
  ofSource (← Source.read text)

/-- Compile a file. -/
def compileFile (read : TextReader) (path : String) : Except Fault Task :=
  match read path with
  | .ok text => compile text
  | .error fault => .error (.unreadable fault)

/-- What the compiler says of the task of a name. -/
def events (watch : Watch) (compiler : EntityId) (name : String) (task : Task) : List Event :=
  watch.sayAll compiler .info
      [ "compiled ", name, ": ", toString task.tracks.length, " tracks, "
      , toString task.tensors.size, " tensors" ] ++
    (Text.numberFrom 0 task.tracks).flatMap fun (index, track) =>
      watch.sayAll compiler .debug
        ["track ", toString index, ": ", toString track.length, " micro-instructions"]

/-- A track in a text. -/
def trackText (index : Nat) (track : List Instruction) : String :=
  s!"track {index}:\n" ++ String.join (track.map fun instr => s!"  {instr}\n")

/-- A task in a text: its tracks, then its tensors. -/
def text (task : Task) : String :=
  String.join ((Text.numberFrom 0 task.tracks).map fun (index, track) => trackText index track) ++
    task.tensors.text

end Task

end CoreArray
