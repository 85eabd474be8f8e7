import CoreArray.Datapath.Interface
set_option autoImplicit false

/-!
# The functional units (SPEC §4.3)

The bus, the scalar processor, the accelerator and the buffer work on the core
alone; the network interface joins them here to the five units that an
instruction can be handed to.
-/

namespace CoreArray

namespace Datapath

/-- Execute an instruction on the bus: any operation with a cost. -/
def runBus (watch : Watch) (spec : CoreSpec) (credits : CreditBoard) (path : Datapath)
    (instr : Instruction) (cycle : Cycle) : Execution :=
  match spec.costOf .bus instr with
  | .error fault => .refused watch spec.ids.bus path credits fault
  | .ok cost =>
      { reply := .ok (.after cycle cost)
        path := { path with counters :=
          { path.counters with busIssued := path.counters.busIssued + 1 } }
        credits
        events := [] }

/-! ## The scalar processor -/

/-- The dimensions that operands give to a tensor. -/
def newDims (id : TensorId) : List Int → Except ExecFault (List Nat)
  | [] => .ok []
  | value :: values =>
      if value < 0 then .error (.reshapeDimension id value)
      else (newDims id values).map (value.toNat :: ·)

/-- The tensor that a reshape names as it was, and its new shape; and the table
afterwards, in which the tensor has that shape. -/
def reshapePlan (tensors : TensorTable) (instr : Instruction) :
    Except ExecFault (Tensor × List Nat) × TensorTable :=
  match operandOf instr 0 with
  | .error fault => (.error fault, tensors)
  | .ok id =>
      match newDims id (instr.operands.drop 1) with
      | .error fault => (.error fault, tensors)
      | .ok dims =>
          match tensors.get? id with
          | none => (.error (.reshapeUnknown id), tensors)
          | some tensor =>
              if wordProduct dims = tensor.size then
                (.ok (tensor, dims), tensors.insert { tensor with dims })
              else (.error (.reshapeSize tensor dims), tensors)

/-- The end of a sleep. -/
def sleepEnd (instr : Instruction) (cycle : Cycle) : Except ExecFault Cycle :=
  match operandOf instr 0 with
  | .error fault => .error fault
  | .ok cycles =>
      if cycles < 0 then .error (.negativeSleep instr)
      else if lastCycle < cycle + cycles.toNat then .error (.clockOverflow instr cycle)
      else .ok (cycle + cycles.toNat)

/-- Count an instruction of the processor. -/
def countCpu (path : Datapath) : Datapath :=
  { path with counters := { path.counters with cpuIssued := path.counters.cpuIssued + 1 } }

/-- Execute an instruction on the processor: `reshape`, `poll` or `sleep`.  Each
needs a cost, though a sleep takes the cycles that it names. -/
def runCpu (watch : Watch) (spec : CoreSpec) (credits : CreditBoard) (path : Datapath)
    (instr : Instruction) (cycle : Cycle) : Execution :=
  match spec.costOf .cpu instr with
  | .error fault => .refused watch spec.ids.cpu path credits fault
  | .ok cost =>
      if instr.opcode = "reshape" then
        match reshapePlan path.tensors instr with
        | (.error fault, tensors) =>
            .refused watch spec.ids.cpu { path with tensors } credits fault
        | (.ok (tensor, dims), tensors) =>
            { reply := .ok (.after cycle cost)
              path := { path with tensors }.countCpu
              credits
              events := watch.say spec.ids.cpu .debug
                s!"reshape {tensor.text} to {Tensor.dimsText dims}" }
      else if instr.opcode = "poll" then
        { reply := .ok (.after cycle cost), path := path.countCpu, credits, events := [] }
      else if instr.opcode = "sleep" then
        match sleepEnd instr cycle with
        | .error fault => .refused watch spec.ids.cpu path credits fault
        | .ok doneAt =>
            { reply := .ok (.complete doneAt), path := path.countCpu, credits, events := [] }
      else .refused watch spec.ids.cpu path credits (.unsupported .cpu instr)

/-! ## The accelerator and the buffer -/

/-- The configuration that asks for a convolution. -/
def convConfig : String := "conv"

/-- The throughput and the multiply-accumulates of an accelerator instruction, and the
tensor table afterwards. -/
def accPlan (spec : CoreSpec) (tensors : TensorTable) (instr : Instruction) :
    Except ExecFault (Binary64 × Nat) × TensorTable :=
  match spec.rateOf .acc instr with
  | .error fault => (.error fault, tensors)
  | .ok rate =>
      match instr.config with
      | none => (.error (.missingConfig instr), tensors)
      | some config =>
          match operandOf instr 0 with
          | .error fault => (.error fault, tensors)
          | .ok output =>
              let inputs := instr.operands.drop 1
              let result :=
                if config = convConfig then Contraction.conv tensors output inputs
                else Contraction.einsum tensors config output inputs
              match result with
              | (.error fault, tensors) => (.error (.contraction instr fault), tensors)
              | (.ok macs, tensors) => (.ok (rate, macs), tensors)

/-- Execute an instruction on the accelerator.  Its time is the count of
multiply-accumulates over the throughput. -/
def runAcc (watch : Watch) (spec : CoreSpec) (credits : CreditBoard) (path : Datapath)
    (instr : Instruction) (cycle : Cycle) : Execution :=
  match accPlan spec path.tensors instr with
  | (.error fault, tensors) => .refused watch spec.ids.acc { path with tensors } credits fault
  | (.ok (rate, macs), tensors) =>
      { reply := .ok (.after cycle ((Binary64.ofNat macs).div rate))
        path := { path with
          tensors
          counters := { path.counters with
            accIssued := path.counters.accIssued + 1
            macs := wrap (path.counters.macs + macs) } }
        credits
        events := watch.say spec.ids.acc .debug s!"{instr}: {macs} MACs" }

/-- The throughput and the count of elements of a buffer instruction. -/
def bufferPlan (spec : CoreSpec) (tensors : TensorTable) (instr : Instruction) :
    Except ExecFault (Binary64 × Nat) :=
  match spec.rateOf .buffer instr with
  | .error fault => .error fault
  | .ok rate =>
      match operandOf instr 0 with
      | .error fault => .error fault
      | .ok id => .ok (rate, tensors.sizeOf id)

/-- Execute an instruction on the buffer.  Its time is the count of elements
over the throughput. -/
def runBuffer (watch : Watch) (spec : CoreSpec) (credits : CreditBoard) (path : Datapath)
    (instr : Instruction) (cycle : Cycle) : Execution :=
  match bufferPlan spec path.tensors instr with
  | .error fault => .refused watch spec.ids.buffer path credits fault
  | .ok (rate, size) =>
      { reply := .ok (.after cycle ((Binary64.ofNat size).div rate))
        path := { path with
          counters := { path.counters with
            bufferIssued := path.counters.bufferIssued + 1
            elements := wrap (path.counters.elements + size) } }
        credits
        events := [] }

/-! ## All units -/

/-- Execute an instruction on a unit. -/
def run (watch : Watch) (spec : CoreSpec) (credits : CreditBoard) (path : Datapath)
    (unit : UnitName) (instr : Instruction) (cycle : Cycle) : Execution :=
  match unit with
  | .bus => path.runBus watch spec credits instr cycle
  | .cpu => path.runCpu watch spec credits instr cycle
  | .acc => path.runAcc watch spec credits instr cycle
  | .buffer => path.runBuffer watch spec credits instr cycle
  | .ni => path.runInterface watch spec credits instr cycle

/-- The word for a credit flag. -/
def creditText (credits : CreditBoard) (node : Node) : String :=
  match credits.isOpen node with
  | .ok true => "open"
  | _ => "closed"

/-- The state of a unit in a text. -/
def unitText (spec : CoreSpec) (credits : CreditBoard) (path : Datapath) (unit : UnitName) :
    String :=
  let counters := path.counters
  let costs := spec.latencies.costsText unit
  match unit with
  | .bus => s!"{unit}: {counters.busIssued} issued {costs}"
  | .cpu => s!"{unit}: {counters.cpuIssued} issued {costs}"
  | .acc => s!"{unit}: {counters.accIssued} issued, {counters.macs} MACs {costs}"
  | .buffer => s!"{unit}: {counters.bufferIssued} issued, {counters.elements} elements {costs}"
  | .ni =>
      s!"{unit}: outbound {path.port.outbound.length} inbound {path.port.inbound.length} " ++
        s!"credit {creditText credits spec.node} sent {counters.sent} " ++
        s!"received {counters.received}"

end Datapath

end CoreArray
