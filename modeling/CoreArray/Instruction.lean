import CoreArray.Text.Numeral
set_option autoImplicit false

/-!
# Micro-instructions (SPEC §3, §10.6)

A micro-instruction names a functional unit and one of its operations, and
carries an optional configuration word and integer operands.  In a text it is
written `UNIT.opcode config operand operand ...`.  The configuration needs no
mark: it is the first word after the head if that word is no number.
-/

namespace CoreArray

/-- A micro-instruction. -/
structure Instruction where
  /-- The name of the functional unit that executes it. -/
  unit : String
  opcode : String
  /-- A configuration that is no number, such as an index contraction. -/
  config : Option String
  /-- Tensor names, nodes or cycle counts, as the operation has it. -/
  operands : List Int
  deriving DecidableEq, Repr, Inhabited

namespace Instruction

/-- Why a text is no micro-instruction. -/
inductive ReadFault where
  /-- No word at all. -/
  | empty
  /-- The first word is not of the form `UNIT.opcode`. -/
  | head (text : String)
  /-- A later word is no number, and is not in the place of the configuration. -/
  | operand (text word : String)
  deriving DecidableEq, Repr, Inhabited

/-- The report of a text that is no micro-instruction. -/
def ReadFault.message : ReadFault → String
  | empty => "empty micro-instruction"
  | head text => s!"micro-instruction `{text}` must start with UNIT.opcode"
  | operand text word => s!"micro-instruction `{text}`: invalid operand `{word}`"

/-- Read words that are all numbers; the first that is none is reported. -/
def readOperands : List String → Except String (List Int)
  | [] => .ok []
  | word :: words =>
      match Text.signed? word with
      | none => .error word
      | some value => (readOperands words).map (value :: ·)

/-- Read the configuration, if there is one, and the operands. -/
def readArguments : List String → Except String (Option String × List Int)
  | [] => .ok (none, [])
  | word :: words =>
      match Text.signed? word with
      | none => (readOperands words).map fun operands => (some word, operands)
      | some value => (readOperands words).map fun operands => (none, value :: operands)

/-- Read the unit and the opcode, both not empty, around the first point. -/
def readHead (word : String) : Option (String × String) :=
  match Text.splitAt? '.' word with
  | some (unit, opcode) => if unit.isEmpty || opcode.isEmpty then none else some (unit, opcode)
  | none => none

/-- Read a micro-instruction. -/
def read (text : String) : Except ReadFault Instruction :=
  match Text.wordsOf text with
  | [] => .error .empty
  | word :: words =>
      match readHead word with
      | none => .error (.head text)
      | some (unit, opcode) =>
          match readArguments words with
          | .error word => .error (.operand text word)
          | .ok (config, operands) => .ok { unit, opcode, config, operands }

/-- The words after the head. -/
def arguments (i : Instruction) : List String :=
  i.config.toList ++ i.operands.map toString

/-- A micro-instruction in a text. -/
def text (i : Instruction) : String :=
  " ".intercalate ((i.unit ++ "." ++ i.opcode) :: i.arguments)

instance : ToString Instruction := ⟨text⟩

/-- An operand that an instruction does not have. -/
structure MissingOperand where
  instruction : Instruction
  index : Nat
  deriving DecidableEq, Repr, Inhabited

/-- The report of a missing operand. -/
def MissingOperand.message (fault : MissingOperand) : String :=
  s!"{fault.instruction}: missing operand {fault.index}"

/-- The operand at a position. -/
def operand? (i : Instruction) (index : Nat) : Except MissingOperand Int :=
  match i.operands[index]? with
  | some value => .ok value
  | none => .error ⟨i, index⟩

/-- A micro-instruction without a configuration. -/
def plain (unit opcode : String) (operands : List Int) : Instruction :=
  { unit, opcode, config := none, operands }

end Instruction

end CoreArray
