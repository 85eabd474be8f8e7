import CoreArray.Task.Lowering
import CoreArray.Files.Tree
set_option autoImplicit false

/-!
# Task sources (SPEC §4.1, §6)

A task source has sections of operators and of data.  A line that contains the
word `operators` or `data` begins a section.  In a section of operators, braces
enclose blocks, each of which is a track; an operator outside a block belongs to
the last track.  In a section of data, each line declares a tensor with its
destinations and, possibly, its dimensions.  Blank lines and lines that begin
with `//` say nothing.
-/

namespace CoreArray

namespace Task

/-- A line that is in the wrong place. -/
inductive Misplaced where
  | sectionInBlock
  | outsideSection
  | nestedBlock
  | unmatchedBrace
  | unclosedBlock
  deriving DecidableEq, Repr, Inhabited

/-- The words for a line in the wrong place. -/
def Misplaced.text : Misplaced → String
  | sectionInBlock => "section starts inside a block"
  | outsideSection => "line outside an operators or data section"
  | nestedBlock => "nested block"
  | unmatchedBrace => "unmatched `\x7d`"
  | unclosedBlock => "unclosed block"

/-- Why a task cannot be compiled. -/
inductive Fault where
  | misplaced (line : Nat) (what : Misplaced)
  | operator (line : Nat) (fault : Operator.Fault)
  | dataForm (line : Nat) (text : String)
  | dataValue (line : Nat) (field : String)
  | declaredTwice (line : Nat) (id : TensorId)
  /-- An output without destinations. -/
  | mismatch (id : TensorId)
  | unreadable (fault : FileFault)
  deriving DecidableEq, Repr, Inhabited

/-- The report of a fault in the task of a name. -/
def Fault.message (name : String) : Fault → String
  | misplaced line what => s!"malformed section marker in {name} line {line}: {what.text}"
  | operator line fault => s!"{name} line {line}: {fault.message}"
  | dataForm line text => s!"{name} line {line}: data line `{text}` needs tensor#dests#dims"
  | dataValue line field => s!"{name} line {line}: invalid value `{field}`"
  | declaredTwice line id => s!"{name} line {line}: tensor {id} declared twice"
  | mismatch id => s!"{Operator.mismatchMessage id} in file {name}"
  | unreadable .notFound => s!"task file {name} not found"
  | unreadable fault => s!"unable to read task file {name}: {fault.message}"

/-- The section that a line is in. -/
inductive Section where
  | preamble
  | operators
  | data
  deriving DecidableEq, Repr, Inhabited

/-- What has been read of a source. -/
structure Source where
  tracks : List (List Operator)
  tensors : TensorTable
  dests : Destinations
  place : Section
  /-- Whether a block is open. -/
  inBlock : Bool
  deriving Inhabited

namespace Source

/-- Nothing read yet. -/
def empty : Source := ⟨[], .empty, ∅, .preamble, false⟩

/-- Tracks with an operator at the end of the last one, or in a first one. -/
def addToLast (op : Operator) : List (List Operator) → List (List Operator)
  | [] => [[op]]
  | [track] => [track ++ [op]]
  | track :: tracks => track :: addToLast op tracks

/-- Open a block: a new track. -/
def openBlock (source : Source) : Source :=
  { source with tracks := source.tracks ++ [[]], inBlock := true }

/-- Whether a line begins a section. -/
def isMarker (line : String) : Bool :=
  Text.contains line "operators" || Text.contains line "data"

/-- Begin a section.  The line that begins a section of operators may open a
block. -/
def beginSection (source : Source) (number : Nat) (line : String) : Except Fault Source :=
  if source.inBlock then .error (.misplaced number .sectionInBlock)
  else if Text.contains line "operators" then
    let source := { source with place := .operators }
    .ok (if Text.contains line "\x7b" then source.openBlock else source)
  else .ok { source with place := .data }

/-- Read a line of a section of operators. -/
def readOperatorLine (source : Source) (number : Nat) (line : String) : Except Fault Source :=
  if Text.contains line "\x7b" then
    if source.inBlock then .error (.misplaced number .nestedBlock) else .ok source.openBlock
  else if Text.contains line "\x7d" then
    if source.inBlock then .ok { source with inBlock := false }
    else .error (.misplaced number .unmatchedBrace)
  else
    match Operator.read line with
    | .error fault => .error (.operator number fault)
    | .ok op => .ok { source with tracks := addToLast op source.tracks }

/-- The fields of a data line. -/
structure Declaration where
  id : TensorId
  dests : List Node
  dims : List Nat
  deriving DecidableEq, Repr, Inhabited

/-- Read unsigned numbers between commas. -/
def readNumbers (number : Nat) (field : String) : Except Fault (List Nat) :=
  (Operator.readFields Text.unsigned? (Text.fieldsOf ',' field)).mapError fun field =>
    .dataValue number field

/-- Read the fields of a data line. -/
def readFields (number : Nat) (id dests dims : String) : Except Fault Declaration :=
  match Text.signed? id with
  | none => .error (.dataValue number id)
  | some id => do
      let dests ← readNumbers number dests
      let dims ← readNumbers number dims
      return { id, dests, dims }

/-- Read a data line. -/
def readDeclaration (number : Nat) (line : String) : Except Fault Declaration :=
  match Text.fieldsOf '#' (Text.squeezed line) with
  | [id, dests] => readFields number id dests ""
  | [id, dests, dims] => readFields number id dests dims
  | _ => .error (.dataForm number line)

/-- Enter a declaration. -/
def declare (source : Source) (number : Nat) (d : Declaration) : Except Fault Source :=
  if source.tensors.contains d.id then .error (.declaredTwice number d.id)
  else
    .ok { source with
      tensors := source.tensors.insert ⟨d.id, d.dims⟩
      dests := source.dests.insert d.id d.dests }

/-- Read a line of a section of data. -/
def readDataLine (source : Source) (number : Nat) (line : String) : Except Fault Source := do
  source.declare number (← readDeclaration number line)

/-- Read a line. -/
def readLine (source : Source) (number : Nat) (line : String) : Except Fault Source :=
  let line := Text.trimmed line
  if Text.isRemark line then .ok source
  else if isMarker line then source.beginSection number line
  else
    match source.place with
    | .preamble => .error (.misplaced number .outsideSection)
    | .operators => source.readOperatorLine number line
    | .data => source.readDataLine number line

/-- Read numbered lines. -/
def readLines (source : Source) : List (Nat × String) → Except Fault Source
  | [] => .ok source
  | (number, line) :: lines =>
      match source.readLine number line with
      | .error fault => .error fault
      | .ok source => source.readLines lines

/-- Read a source, in which every block must be closed. -/
def read (text : String) : Except Fault Source := do
  let lines := Text.linesOf text
  let source ← empty.readLines (Text.numberFrom 1 lines)
  if source.inBlock then .error (.misplaced lines.length .unclosedBlock) else return source

/-- The operators of all tracks in order. -/
def operators (source : Source) : List Operator := source.tracks.flatten

end Source

end Task

end CoreArray
