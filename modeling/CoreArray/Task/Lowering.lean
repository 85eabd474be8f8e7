import CoreArray.Task.Operator
set_option autoImplicit false

/-!
# Lowering (SPEC §4.1)

An operator is lowered to micro-instructions.  A compute operator receives each
distinct input that is not on the core and writes it into the buffer; then for
each output it reads all inputs, computes, writes the output and reads it back,
and sends it to the destinations bound to it.
-/

namespace CoreArray

namespace Lowering

/-- Move a tensor over the bus. -/
def trans (id : TensorId) : Instruction := .plain "BUS" "trans" [id]

/-- Read a tensor from the buffer. -/
def read (id : TensorId) : Instruction := .plain "BUFFER" "read" [id]

/-- Write a tensor into the buffer. -/
def write (id : TensorId) : Instruction := .plain "BUFFER" "write" [id]

/-- Receive a tensor. -/
def recv (id : TensorId) : Instruction := .plain "NI" "recv" [id]

/-- Wait. -/
def sleep (cycles : Int) : Instruction := .plain "CPU" "sleep" [cycles]

/-- Send a tensor to nodes; the operands are the nodes as signed numbers. -/
def send (id : TensorId) (dests : List Node) : Instruction :=
  .plain "NI" "send" (id :: dests.map Text.wrapSigned)

/-- Send a tensor to the destinations bound to it. -/
def sendBound (dests : Destinations) (id : TensorId) : Instruction := send id (dests.getD id [])

/-- Fetch an input over the network. -/
def fetch (id : TensorId) : List Instruction := [recv id, trans id, write id]

/-- Load an input from the buffer. -/
def load (id : TensorId) : List Instruction := [read id, trans id]

/-- Compute an output. -/
def calculate (config : Option String) (output : TensorId) (inputs : List TensorId) :
    Instruction :=
  match config with
  | none => sleep 1
  | some config => { unit := "ACC", opcode := "cal", config, operands := output :: inputs }

/-- Put an output into the buffer and read it back. -/
def store (id : TensorId) : List Instruction := [trans id, write id, read id, trans id]

end Lowering

open Lowering

namespace ComputeOp

/-- The inputs to be fetched, each once, in the order of their first
occurrence. -/
def fetched (op : ComputeOp) : List TensorId :=
  (((op.inputs.zip op.stationary).filter fun (_, stationary) => !stationary).map
    Prod.fst).eraseDups

/-- The instructions for one output. -/
def lowerOutput (op : ComputeOp) (output : TensorId) : List Instruction :=
  op.inputs.flatMap load ++ calculate op.config output op.inputs ::
    store output ++ [sendBound op.dests output]

/-- The instructions of a compute operator. -/
def lower (op : ComputeOp) : List Instruction :=
  op.fetched.flatMap fetch ++ op.outputs.flatMap op.lowerOutput

end ComputeOp

namespace ManipulateOp

/-- The instructions of one round. -/
def lowerRound (op : ManipulateOp) : List Instruction :=
  op.outputs.map (sendBound op.dests) ++ [sleep op.interval]

/-- The instructions of a manipulate operator. -/
def lower (op : ManipulateOp) : List Instruction :=
  (List.replicate op.count op.lowerRound).flatten

end ManipulateOp

/-- The instructions of an operator. -/
def Operator.lower : Operator → List Instruction
  | compute op => op.lower
  | manipulate op => op.lower
  | assemble instr => [instr]

end CoreArray
