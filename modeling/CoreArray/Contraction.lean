import CoreArray.Tensor
set_option autoImplicit false

/-!
# Contractions and convolutions (SPEC §4.3)

The accelerator multiplies and accumulates.  A contraction is given by an index
configuration such as `ij,jk->ik`: a letter per dimension of each input, and the
letters of the output.  Its count of multiply-accumulates is the product of the
sizes of the output indices and of the contracted ones.  A contracted index is
missing from the output; with one input it is any such index of that input, with
several it is shared by two consecutive inputs.  The shape of the output is
entered into the tensor table unless the output has one already.
-/

namespace CoreArray.Contraction

/-- Why a contraction or convolution is refused. -/
inductive Fault where
  | noArrow (config : String)
  | inputCount (config : String) (named given : Nat)
  | noDimension (index : Char) (id : TensorId) (dims : List Nat)
  | sizes (first second : TensorId) (index : Char) (firstSize secondSize : Nat)
  | freeOutput (index : Char) (config : String)
  | operandCount (given : Nat)
  | ranks (weight input : List Nat)
  deriving DecidableEq, Repr, Inhabited

/-- The report of a fault. -/
def Fault.message : Fault → String
  | noArrow config => s!"index config `{config}` has no `->`"
  | inputCount config named given =>
      s!"index config `{config}` names {named} inputs but {given} are given"
  | noDimension index id dims =>
      s!"tensor size mismatch: index `{index}` has no dimension in tensor {id} " ++
        Tensor.dimsText dims
  | sizes first second index firstSize secondSize =>
      s!"tensor size mismatch between tensor {first} and tensor {second} " ++
        s!"at index `{index}` ({firstSize} != {secondSize})"
  | freeOutput index config => s!"output index `{index}` of `{config}` appears in no input"
  | operandCount given => s!"conv expects a weight and an input, {given} operands given"
  | ranks weight input =>
      "tensor size mismatch: conv expects a rank 4 weight and rank 3 input, got " ++
        Tensor.dimsText weight ++ " and " ++ Tensor.dimsText input

/-! ## Index configurations -/

/-- An input: its letters beside its tensor. -/
structure Operand where
  indices : List Char
  tensor : Tensor
  deriving DecidableEq, Repr, Inhabited

/-- The size that an input gives to the index at a position. -/
def Operand.sizeAt (operand : Operand) (position : Nat) (index : Char) : Except Fault Nat :=
  match operand.tensor.dims[position]? with
  | some size => .ok size
  | none => .error (.noDimension index operand.tensor.id operand.tensor.dims)

/-- The letters of the inputs and of the output. -/
structure Config where
  inputs : List (List Char)
  output : List Char
  deriving DecidableEq, Repr, Inhabited

/-- Read a configuration: the inputs stand before the first arrow, between
commas. -/
def Config.read (text : String) : Except Fault Config :=
  match Text.cutAt ['-', '>'] text.toList with
  | none => .error (.noArrow text)
  | some (inputs, output) => .ok ⟨Text.cuts (· == ',') inputs, output⟩

/-- The sizes of the contracted indices of a single input, from its numbered
letters. -/
def soloSizes (output : List Char) (operand : Operand) :
    List (Nat × Char) → Except Fault (List Nat)
  | [] => .ok []
  | (position, index) :: rest =>
      if output.contains index then soloSizes output operand rest
      else do
        let size ← operand.sizeAt position index
        let sizes ← soloSizes output operand rest
        return size :: sizes

/-- The sizes of the indices contracted between two inputs, from the numbered
letters of the second. -/
def pairSizes (output : List Char) (first second : Operand) :
    List (Nat × Char) → Except Fault (List Nat)
  | [] => .ok []
  | (position, index) :: rest =>
      match first.indices.idxOf? index with
      | none => pairSizes output first second rest
      | some firstPosition =>
          if output.contains index then pairSizes output first second rest
          else do
            let firstSize ← first.sizeAt firstPosition index
            let secondSize ← second.sizeAt position index
            if firstSize = secondSize then
              let sizes ← pairSizes output first second rest
              return firstSize :: sizes
            else
              .error (.sizes first.tensor.id second.tensor.id index firstSize secondSize)

/-- The sizes of the indices contracted between consecutive inputs. -/
def chainSizes (output : List Char) : List Operand → Except Fault (List Nat)
  | first :: second :: rest => do
      let sizes ← pairSizes output first second (Text.numberFrom 0 second.indices)
      let others ← chainSizes output (second :: rest)
      return sizes ++ others
  | _ => .ok []

/-- The sizes of all contracted indices. -/
def contractedSizes (output : List Char) : List Operand → Except Fault (List Nat)
  | [operand] => soloSizes output operand (Text.numberFrom 0 operand.indices)
  | operands => chainSizes output operands

/-- The first input that carries an index, and where. -/
def carrier? (index : Char) : List Operand → Option (Operand × Nat)
  | [] => none
  | operand :: operands =>
      match operand.indices.idxOf? index with
      | some position => some (operand, position)
      | none => carrier? index operands

/-- The sizes of the output indices. -/
def outputSizes (config : String) (operands : List Operand) :
    List Char → Except Fault (List Nat)
  | [] => .ok []
  | index :: rest =>
      match carrier? index operands with
      | none => .error (.freeOutput index config)
      | some (operand, position) => do
          let size ← operand.sizeAt position index
          let sizes ← outputSizes config operands rest
          return size :: sizes

/-- The shape of an output; one without indices is a single number. -/
def outputDims (sizes : List Nat) : List Nat := if sizes.isEmpty then [1] else sizes

/-- The multiply-accumulates of a contraction, counted in a word, and the table
afterwards, in which the output has a shape. -/
def einsum (table : TensorTable) (text : String) (output : TensorId) (inputs : List TensorId) :
    Except Fault Nat × TensorTable :=
  match Config.read text with
  | .error fault => (.error fault, table)
  | .ok config =>
      if config.inputs.length ≠ inputs.length then
        (.error (.inputCount text config.inputs.length inputs.length), table)
      else
        let operands := List.zipWith (fun indices id => ⟨indices, id, table.dimsOf id⟩)
          config.inputs inputs
        match contractedSizes config.output operands with
        | .error fault => (.error fault, table)
        | .ok contracted =>
            match outputSizes text operands config.output with
            | .error fault => (.error fault, table)
            | .ok sizes =>
                (.ok (wordProduct (contracted ++ sizes)),
                  table.allocate output (outputDims sizes))

/-- A contraction that is refused leaves all tensors as they are. -/
theorem einsum_of_error {table after : TensorTable} {text : String} {output : TensorId}
    {inputs : List TensorId} {fault : Fault}
    (h : einsum table text output inputs = (.error fault, after)) : after = table := by
  unfold einsum at h
  split at h
  · exact (Prod.mk.inj h).2.symm
  · split at h
    · exact (Prod.mk.inj h).2.symm
    · dsimp only at h
      split at h
      · exact (Prod.mk.inj h).2.symm
      · split at h
        · exact (Prod.mk.inj h).2.symm
        · simp at h

/-! ## Convolutions -/

/-- The multiply-accumulates of a convolution: those of one output element are
the elements of the weight that belong to one output channel. -/
def convCount (outputSize channels weightSize : Nat) : Nat :=
  if channels = 0 then 0 else wrap (outputSize * weightSize) / channels

/-- The multiply-accumulates of a convolution of a weight, whose first dimension
is the output channels, with an input of channels, rows and columns; and the
table afterwards, in which the output has a shape. -/
def conv (table : TensorTable) (output : TensorId) (inputs : List TensorId) :
    Except Fault Nat × TensorTable :=
  match inputs with
  | [weight, input] =>
      let weightDims := table.dimsOf weight
      let inputDims := table.dimsOf input
      match weightDims, inputDims with
      | [channels, _, _, _], [_, rows, columns] =>
          let table := table.allocate output [channels, rows, columns]
          (.ok (convCount (table.sizeOf output) channels (wordProduct weightDims)), table)
      | _, _ => (.error (.ranks weightDims inputDims), table)
  | _ => (.error (.operandCount inputs.length), table)

/-- A convolution that is refused leaves all tensors as they are. -/
theorem conv_of_error {table after : TensorTable} {output : TensorId} {inputs : List TensorId}
    {fault : Fault} (h : conv table output inputs = (.error fault, after)) : after = table := by
  unfold conv at h
  split at h
  · dsimp only at h
    split at h
    · simp at h
    · exact (Prod.mk.inj h).2.symm
  · exact (Prod.mk.inj h).2.symm

end CoreArray.Contraction
