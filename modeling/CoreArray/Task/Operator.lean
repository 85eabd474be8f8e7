import CoreArray.Instruction
import CoreArray.Latency
import CoreArray.Packet
set_option autoImplicit false

/-!
# Operators (SPEC §3, §4.1)

A task is written in operators.  A compute operator fetches its inputs, computes
each of its outputs and sends it on; a manipulate operator sends its outputs
periodically; an assemble operator is one instruction.  The destinations of an
output are declared apart from the operators and bound to them before lowering.
-/

namespace CoreArray

/-- The destinations of tensors. -/
abbrev Destinations : Type := Std.ExtTreeMap TensorId (List Node)

/-- A computation of outputs from inputs. -/
structure ComputeOp where
  inputs : List TensorId
  outputs : List TensorId
  dests : Destinations
  /-- The index configuration for the accelerator; without one the computation
  is left to the processor. -/
  config : Option String
  /-- For each input whether it is on the core already. -/
  stationary : List Bool
  deriving Inhabited

/-- Periodic traffic. -/
structure ManipulateOp where
  outputs : List TensorId
  dests : Destinations
  /-- Cycles between two rounds. -/
  interval : Int
  /-- Number of rounds. -/
  count : Nat
  deriving Inhabited

/-- An operator. -/
inductive Operator where
  | compute (op : ComputeOp)
  | manipulate (op : ManipulateOp)
  | assemble (instr : Instruction)
  deriving Inhabited

namespace Operator

/-- Why a line is no operator. -/
inductive Fault where
  | unspecified (line : String)
  | computeForm (line : String)
  | manipulateForm (line : String)
  | value (field line : String)
  | interval (field line : String)
  | count (field line : String)
  | instruction (fault : Instruction.ReadFault)
  deriving DecidableEq, Repr, Inhabited

/-- The report of a fault. -/
def Fault.message : Fault → String
  | unspecified line => s!"operator type unspecified in `{line}`"
  | computeForm line => s!"compute operator `{line}` needs config#outputs#inputs"
  | manipulateForm line => s!"manipulate operator `{line}` needs interval#count#outputs"
  | value field line => s!"invalid value `{field}` in operator `{line}`"
  | interval field line => s!"invalid interval `{field}` in operator `{line}`"
  | count field line => s!"invalid count `{field}` in operator `{line}`"
  | instruction fault => fault.message

/-- The tensors that an operator reads. -/
def inputs : Operator → List TensorId
  | compute op => op.inputs
  | _ => []

/-- The tensors that an operator makes or sends. -/
def outputs : Operator → List TensorId
  | compute op => op.outputs
  | manipulate op => op.outputs
  | assemble _ => []

/-- The destinations bound to an operator. -/
def dests : Operator → Destinations
  | compute op => op.dests
  | manipulate op => op.dests
  | assemble _ => ∅

/-- An operator with other destinations; an instruction has none. -/
def withDests (op : Operator) (dests : Destinations) : Operator :=
  match op with
  | compute op => compute { op with dests }
  | manipulate op => manipulate { op with dests }
  | assemble instr => assemble instr

/-! ## Reading -/

/-- The fields of a list that are not empty, each read as a value; the first
that cannot be read is reported. -/
def readFields {α : Type} (read : String → Option α) : List String → Except String (List α)
  | [] => .ok []
  | field :: fields =>
      if field.isEmpty then readFields read fields
      else
        match read field with
        | none => .error field
        | some value => (readFields read fields).map (value :: ·)

/-- Read tensor names between commas. -/
def readIds (line field : String) : Except Fault (List TensorId) :=
  (readFields Text.signed? (Text.fieldsOf ',' field)).mapError fun field => .value field line

/-- Read an interval: a signed number that is not negative. -/
def readInterval (line field : String) : Except Fault Int :=
  match Text.signed? field with
  | some interval => if 0 ≤ interval then .ok interval else .error (.interval field line)
  | none => .error (.interval field line)

/-- Read a count. -/
def readCount (line field : String) : Except Fault Nat :=
  match Text.unsigned? field with
  | some count => .ok count
  | none => .error (.count field line)

/-- Read what follows the kind of a compute operator. -/
def readCompute (line body : String) : Except Fault Operator :=
  match Text.fieldsOf '#' (Text.squeezed body) with
  | [config, outputs, inputs] => do
      let inputs ← readIds line inputs
      let outputs ← readIds line outputs
      return compute
        { inputs
          outputs
          dests := ∅
          config := if config.isEmpty then none else some config
          stationary := List.replicate inputs.length false }
  | _ => .error (.computeForm line)

/-- Read what follows the kind of a manipulate operator. -/
def readManipulate (line body : String) : Except Fault Operator :=
  match Text.fieldsOf '#' (Text.squeezed body) with
  | [interval, count, outputs] => do
      let outputs ← readIds line outputs
      let interval ← readInterval line interval
      let count ← readCount line count
      return manipulate { outputs, dests := ∅, interval, count }
  | _ => .error (.manipulateForm line)

/-- Read an operator.  Its kind is told by a word anywhere before the first
`#`. -/
def read (line : String) : Except Fault Operator :=
  match Text.splitAt? '#' line with
  | none => .error (.unspecified line)
  | some (kind, body) =>
      if Text.contains kind "compute" then readCompute line body
      else if Text.contains kind "manipulate" then readManipulate line body
      else if Text.contains kind "assemble" then
        ((Instruction.read (Text.trimmed body)).map assemble).mapError .instruction
      else .error (.unspecified line)

/-! ## Destinations -/

/-- Bind outputs to their declared destinations, up to the first output without
any. -/
def bindOutputs (declared : Destinations) (bound : Destinations) :
    List TensorId → Except TensorId Unit × Destinations
  | [] => (.ok (), bound)
  | output :: outputs =>
      match declared[output]? with
      | some (dest :: dests) =>
          bindOutputs declared (bound.insert output (dest :: dests)) outputs
      | _ => (.error output, bound)

/-- Bind the outputs of an operator to their declared destinations.  If an
output has none it is reported, and the outputs before it stay bound. -/
def bind (op : Operator) (declared : Destinations) : Except TensorId Unit × Operator :=
  let (result, bound) := bindOutputs declared op.dests op.outputs
  (result, op.withDests bound)

/-- The report of an output without destinations. -/
def mismatchMessage (id : TensorId) : String := s!"operator/data mismatch at tensor {id}"

/-- Mark which inputs of an operator are on the core already: none are. -/
def discoverStationary : Operator → Operator
  | compute op => compute { op with stationary := List.replicate op.inputs.length false }
  | op => op

end Operator

end CoreArray
