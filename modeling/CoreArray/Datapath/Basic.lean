import CoreArray.Instruction
import CoreArray.Clock
import CoreArray.Latency
import CoreArray.Packet
import CoreArray.Contraction
import CoreArray.Log.Event
set_option autoImplicit false

/-!
# The datapath of a core (SPEC §4.3)

The datapath is what instructions act on: the tensor table, the port to the
network, and the counters of the functional units.  What never changes while a
core runs, its `CoreSpec`, stands beside it.  An instruction handed to a unit
has an `Execution`: the reply, and everything as it is afterwards.
-/

namespace CoreArray

/-- How a send to several destinations becomes packets. -/
inductive Delivery where
  /-- A packet per destination. -/
  | unicast
  /-- One packet along the multicast tree of the tensor. -/
  | multicast
  deriving DecidableEq, Repr, Inhabited

namespace Delivery

/-- A word for no kind of delivery. -/
structure Fault where
  word : String
  deriving DecidableEq, Repr, Inhabited

/-- The report of such a word. -/
def Fault.message (fault : Fault) : String :=
  s!"unknown delivery mode `{fault.word}` (expected unicast or multicast)"

/-- The word for a kind of delivery. -/
def text : Delivery → String
  | unicast => "unicast"
  | multicast => "multicast"

/-- The kind of delivery with exactly this word. -/
def ofText? (word : String) : Option Delivery :=
  [unicast, multicast].find? fun delivery => delivery.text == word

/-- Read a kind of delivery; the case of ASCII letters does not matter. -/
def read (word : String) : Except Fault Delivery :=
  match ofText? (String.ofList (word.toList.map Char.toLower)) with
  | some delivery => .ok delivery
  | none => .error ⟨word⟩

end Delivery

/-- The numbers of a core and of its units as entities. -/
structure CoreIds where
  core : EntityId
  bus : EntityId
  cpu : EntityId
  acc : EntityId
  buffer : EntityId
  ni : EntityId
  deriving DecidableEq, Repr, Inhabited

/-- What never changes while a core runs. -/
structure CoreSpec where
  node : Node
  /-- Credit is open while at most this many packets have arrived and wait. -/
  threshold : Nat
  /-- Elements of a tensor per transfer unit. -/
  channelWidth : Nat
  delivery : Delivery
  latencies : LatencyTable
  board : RoutingBoard
  ids : CoreIds
  deriving DecidableEq, Inhabited

/-- What the units of a core have done. -/
structure Counters where
  busIssued : Nat
  cpuIssued : Nat
  accIssued : Nat
  /-- Multiply-accumulates of the accelerator. -/
  macs : Nat
  bufferIssued : Nat
  /-- Tensor elements moved by the buffer. -/
  elements : Nat
  /-- Packets sent. -/
  sent : Nat
  /-- Packets received. -/
  received : Nat
  deriving DecidableEq, Repr, Inhabited

/-- Nothing done yet. -/
def Counters.zero : Counters := ⟨0, 0, 0, 0, 0, 0, 0, 0⟩

/-- What instructions act on. -/
structure Datapath where
  tensors : TensorTable
  port : Port
  counters : Counters
  deriving DecidableEq, Inhabited

/-- The datapath with tensors and nothing done yet. -/
def Datapath.ofTensors (tensors : TensorTable) : Datapath := ⟨tensors, Port.empty, Counters.zero⟩

/-! ## Refusals -/

/-- Why a unit refuses an instruction. -/
inductive ExecFault where
  /-- No such operation, or none with a cost, or no such tensor to send. -/
  | unsupported (unit : UnitName) (instr : Instruction)
  /-- The cost of the operation is no throughput. -/
  | noThroughput (unit : UnitName) (instr : Instruction)
  | missingOperand (fault : Instruction.MissingOperand)
  /-- An accelerator operation without a configuration. -/
  | missingConfig (instr : Instruction)
  | contraction (instr : Instruction) (fault : Contraction.Fault)
  /-- A new shape with a negative dimension. -/
  | reshapeDimension (id : TensorId) (value : Int)
  | reshapeUnknown (id : TensorId)
  /-- A new shape of another size. -/
  | reshapeSize (tensor : Tensor) (dims : List Nat)
  | negativeSleep (instr : Instruction)
  | clockOverflow (instr : Instruction) (cycle : Cycle)
  | badDestination (instr : Instruction) (value : Int)
  | credit (fault : CreditBoard.Fault)
  /-- The multicast tree of a tensor reaches other nodes than requested. -/
  | treeMismatch (id : TensorId) (reached requested : NodeSet)
  /-- Several destinations and no multicast tree. -/
  | noTree (id : TensorId)
  deriving DecidableEq, Inhabited

namespace ExecFault

/-- The report of a refusal. -/
def message : ExecFault → String
  | unsupported unit instr => s!"{unit} cannot execute the instruction {instr}"
  | noThroughput unit instr => s!"{unit} has no throughput for {instr}"
  | missingOperand fault => fault.message
  | missingConfig instr =>
      s!"{UnitName.acc} cannot execute the instruction {instr}: missing config"
  | contraction _ fault => fault.message
  | reshapeDimension id value => s!"cannot reshape tensor {id}: invalid dimension {value}"
  | reshapeUnknown id => s!"cannot reshape unknown tensor {id}"
  | reshapeSize tensor dims =>
      s!"cannot reshape tensor {tensor.id}: size mismatch between {tensor.size} elements and " ++
        Tensor.dimsText dims
  | negativeSleep instr => s!"{instr}: cannot sleep for a negative number of cycles"
  | clockOverflow instr cycle => s!"{instr}: sleeping from cycle {cycle} overflows the clock"
  | badDestination instr value => s!"{instr}: invalid destination {value}"
  | credit fault => fault.message
  | treeMismatch id reached requested =>
      s!"routing tree for tensor {id} reaches " ++ NodeSet.text reached ++
        " but the send names " ++ NodeSet.text requested
  | noTree id => s!"please specify the multicast tree for tensor {id}"

/-- What a unit says when it refuses; some refusals are left to the report. -/
def notice? : ExecFault → Option String
  | unsupported unit instr => some s!"{unit} cannot execute the instruction {instr}"
  | noThroughput unit instr => some s!"{unit} has no throughput for {instr}"
  | missingConfig instr => some s!"{instr} has no index config"
  | contraction instr fault => some s!"{instr}: {fault.message}"
  | reshapeSize tensor dims =>
      some (s!"size mismatch reshaping {tensor.text} to " ++ Tensor.dimsText dims)
  | treeMismatch id _ requested =>
      some (s!"tree of tensor {id} does not match " ++ NodeSet.text requested)
  | noTree id => some s!"no multicast tree for tensor {id}"
  | missingOperand _ | reshapeDimension _ _ | reshapeUnknown _ | negativeSleep _
  | clockOverflow _ _ | badDestination _ _ | credit _ => none

/-- The events of a refusal. -/
def events (watch : Watch) (source : EntityId) (fault : ExecFault) : List Event :=
  match fault.notice? with
  | some text => watch.say source .error text
  | none => []

end ExecFault

/-! ## Executions -/

/-- What came of an instruction handed to a unit. -/
structure Execution where
  reply : Except ExecFault Outcome
  path : Datapath
  credits : CreditBoard
  events : List Event
  deriving Inhabited

namespace Execution

/-- An execution that is refused and leaves the datapath as it is. -/
def refused (watch : Watch) (source : EntityId) (path : Datapath) (credits : CreditBoard)
    (fault : ExecFault) : Execution :=
  ⟨.error fault, path, credits, fault.events watch source⟩

/-- An execution preceded by events. -/
def after (events : List Event) (execution : Execution) : Execution :=
  { execution with events := events ++ execution.events }

end Execution

/-- The operand at a position, or the refusal for want of it. -/
def operandOf (instr : Instruction) (index : Nat) : Except ExecFault Int :=
  (instr.operand? index).mapError .missingOperand

/-- The cost of an instruction on a unit. -/
def CoreSpec.costOf (spec : CoreSpec) (unit : UnitName) (instr : Instruction) :
    Except ExecFault Binary64 :=
  match spec.latencies.cost? unit instr.opcode with
  | some cost => .ok cost
  | none => .error (.unsupported unit instr)

/-- The cost of an instruction as a throughput, which must be positive. -/
def CoreSpec.rateOf (spec : CoreSpec) (unit : UnitName) (instr : Instruction) :
    Except ExecFault Binary64 :=
  match spec.costOf unit instr with
  | .error fault => .error fault
  | .ok rate => if rate.isNonpos then .error (.noThroughput unit instr) else .ok rate

end CoreArray
