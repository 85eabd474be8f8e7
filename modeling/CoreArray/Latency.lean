import CoreArray.Binary64.Shortest
import Std.Data.ExtTreeMap
set_option autoImplicit false

/-!
# Latency tables (SPEC §4.2)

A core has five functional units.  A latency table gives the cost of each of
their operations.  It is read from a text with one entry `UNIT.opcode cost` per
line; blank lines and lines that begin with `//` say nothing, and a later entry
replaces an earlier one for the same operation.  A cost in a text is finite and
not negative.
-/

namespace CoreArray

/-- The functional units of a core, in the order in which they are listed. -/
inductive UnitName where
  | bus
  | cpu
  | acc
  | buffer
  | ni
  deriving DecidableEq, Repr, Inhabited

namespace UnitName

/-- All units. -/
def all : List UnitName := [bus, cpu, acc, buffer, ni]

/-- The name of a unit in an instruction. -/
def text : UnitName → String
  | bus => "BUS"
  | cpu => "CPU"
  | acc => "ACC"
  | buffer => "BUFFER"
  | ni => "NI"

instance : ToString UnitName := ⟨text⟩

/-- The unit of a name. -/
def ofText? (name : String) : Option UnitName := all.find? fun unit => unit.text == name

theorem ofText?_text (unit : UnitName) : ofText? unit.text = some unit := by
  cases unit <;> decide

end UnitName

/-- The costs of the operations of one unit, by opcode. -/
abbrev Costs : Type := Std.ExtTreeMap String Binary64

/-- The costs of the operations of all units. -/
structure LatencyTable where
  bus : Costs
  cpu : Costs
  acc : Costs
  buffer : Costs
  ni : Costs
  deriving DecidableEq, Inhabited

namespace LatencyTable

/-- Why a text is no latency table, with the number of the line at fault. -/
inductive Fault where
  | shape (line : Nat)
  | key (line : Nat) (word : String)
  | cost (line : Nat) (word : String)
  | component (name : String)
  deriving DecidableEq, Repr, Inhabited

/-- The report of a fault. -/
def Fault.message : Fault → String
  | shape line => s!"latency line {line}: expected `COMPONENT.opcode cost`"
  | key line word => s!"latency line {line}: `{word}` is not COMPONENT.opcode"
  | cost line word => s!"latency line {line}: invalid cost `{word}`"
  | component name => s!"unknown component {name} in latency table"

/-- The table without entries. -/
def empty : LatencyTable := ⟨∅, ∅, ∅, ∅, ∅⟩

/-- The costs of one unit. -/
def costs (table : LatencyTable) : UnitName → Costs
  | .bus => table.bus
  | .cpu => table.cpu
  | .acc => table.acc
  | .buffer => table.buffer
  | .ni => table.ni

/-- Set the cost of an operation. -/
def set (table : LatencyTable) (unit : UnitName) (opcode : String) (cost : Binary64) :
    LatencyTable :=
  match unit with
  | .bus => { table with bus := table.bus.insert opcode cost }
  | .cpu => { table with cpu := table.cpu.insert opcode cost }
  | .acc => { table with acc := table.acc.insert opcode cost }
  | .buffer => { table with buffer := table.buffer.insert opcode cost }
  | .ni => { table with ni := table.ni.insert opcode cost }

/-- The cost of an operation, if the table has an entry for it. -/
def cost? (table : LatencyTable) (unit : UnitName) (opcode : String) : Option Binary64 :=
  (table.costs unit)[opcode]?

/-- Set the cost of an operation of a unit given by name. -/
def insert (table : LatencyTable) (component opcode : String) (cost : Binary64) :
    Except Fault LatencyTable :=
  match UnitName.ofText? component with
  | some unit => .ok (table.set unit opcode cost)
  | none => .error (.component component)

/-- The entries of a unit in the order of the opcodes. -/
def entries (table : LatencyTable) (unit : UnitName) : List (String × Binary64) :=
  (table.costs unit).toList

/-- The entries of a unit in a text, as `[read=1 write=0.5]`. -/
def costsText (table : LatencyTable) (unit : UnitName) : String :=
  "[" ++ " ".intercalate ((table.entries unit).map fun (opcode, cost) =>
    opcode ++ "=" ++ cost.text) ++ "]"

/-! ## Reading -/

/-- Read a cost: a finite number that is not negative. -/
def readCost (word : String) : Option Binary64 :=
  (Binary64.ofString? word).filter fun cost => cost.isNonneg && cost.isFinite

/-- Enter the line with a number into a table. -/
def enterLine (table : LatencyTable) (number : Nat) (line : String) :
    Except Fault LatencyTable :=
  let line := Text.trimmed line
  if Text.isRemark line then .ok table
  else
    match Text.wordsOf line with
    | [key, cost] =>
        match Text.splitAt? '.' key with
        | none => .error (.key number key)
        | some (component, opcode) =>
            match readCost cost with
            | none => .error (.cost number cost)
            | some value => table.insert component opcode value
    | _ => .error (.shape number)

/-- Enter numbered lines one after the other. -/
def enterLines (table : LatencyTable) : List (Nat × String) → Except Fault LatencyTable
  | [] => .ok table
  | (number, line) :: lines =>
      match table.enterLine number line with
      | .error fault => .error fault
      | .ok table => table.enterLines lines

/-- Read a latency table. -/
def read (text : String) : Except Fault LatencyTable :=
  empty.enterLines (Text.numberFrom 1 (Text.linesOf text))

/-! ## Look-ups -/

theorem costs_set_self (table : LatencyTable) (unit : UnitName) (opcode : String)
    (cost : Binary64) :
    (table.set unit opcode cost).costs unit = (table.costs unit).insert opcode cost := by
  cases unit <;> rfl

theorem costs_set_of_ne (table : LatencyTable) {unit other : UnitName} (h : unit ≠ other)
    (opcode : String) (cost : Binary64) :
    (table.set unit opcode cost).costs other = table.costs other := by
  cases unit <;> cases other <;> simp_all [set, costs]

/-- A set operation changes exactly its own cost. -/
theorem cost?_set (table : LatencyTable) (unit other : UnitName) (opcode op : String)
    (cost : Binary64) :
    (table.set unit opcode cost).cost? other op =
      if unit = other ∧ opcode = op then some cost else table.cost? other op := by
  unfold cost?
  by_cases h : unit = other
  · subst h
    simp [costs_set_self, Std.ExtTreeMap.getElem?_insert]
  · simp [costs_set_of_ne table h, h]

end LatencyTable

end CoreArray
