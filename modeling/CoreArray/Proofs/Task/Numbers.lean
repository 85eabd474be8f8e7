import CoreArray.Proofs.Task.OperatorLines
set_option autoImplicit false

/-!
# Line numbers (SPEC §4.1)

A task is what its lines say.  The number of a line is used for one thing only, to say where
a fault is, and a blank line or a comment has no other effect than to shift the numbers of
the lines behind it.  So `compileSaid` compiles the lines that say something without any
numbers, and compiling a text gives the same, but for the line of the fault
(`compile_atLine`).
-/

namespace CoreArray

namespace Task

/-- A fault as it would be reported at a line. -/
def Fault.atLine (number : Nat) : Fault → Fault
  | misplaced _ what => misplaced number what
  | operator _ fault => operator number fault
  | dataForm _ text => dataForm number text
  | dataValue _ field => dataValue number field
  | declaredTwice _ id => declaredTwice number id
  | mismatch id => mismatch id
  | unreadable fault => unreadable fault

namespace Source

/-! ## Reading a line at another line -/

/-- Read a line that says something, without its outer blanks. -/
def take (source : Source) (number : Nat) (line : String) : Except Fault Source :=
  if isMarker line then source.beginSection number line
  else
    match source.place with
    | .preamble => .error (.misplaced number .outsideSection)
    | .operators => source.readOperatorLine number line
    | .data => source.readDataLine number line

theorem readLine_eq_take (source : Source) (number : Nat) (line : String) :
    source.readLine number line =
      if Text.isRemark (Text.trimmed line) then .ok source
      else source.take number (Text.trimmed line) := rfl

section AtLine

variable (source : Source) (number other : Nat) (line : String)

theorem beginSection_atLine :
    (source.beginSection number line).mapError (Fault.atLine other) =
      source.beginSection other line := by
  unfold beginSection
  split
  · rfl
  · split <;> rfl

theorem readOperatorLine_atLine :
    (source.readOperatorLine number line).mapError (Fault.atLine other) =
      source.readOperatorLine other line := by
  unfold readOperatorLine
  split
  · split <;> rfl
  · split
    · split <;> rfl
    · cases Operator.read line <;> rfl

theorem readNumbers_atLine (field : String) :
    (readNumbers number field).mapError (Fault.atLine other) = readNumbers other field := by
  unfold readNumbers
  cases Operator.readFields Text.unsigned? (Text.fieldsOf ',' field) <;> rfl

theorem readFields_atLine (id dests dims : String) :
    (readFields number id dests dims).mapError (Fault.atLine other) =
      readFields other id dests dims := by
  unfold readFields
  cases Text.signed? id with
  | none => rfl
  | some id =>
      dsimp only
      simp only [mapError_bind, readNumbers_atLine]
      rfl

theorem readDataLine_atLine :
    (source.readDataLine number line).mapError (Fault.atLine other) =
      source.readDataLine other line := by
  have hdeclaration : (readDeclaration number line).mapError (Fault.atLine other) =
      readDeclaration other line := by
    unfold readDeclaration
    split
    · exact readFields_atLine number other _ _ _
    · exact readFields_atLine number other _ _ _
    · rfl
  have hdeclare (d : Declaration) : (source.declare number d).mapError (Fault.atLine other) =
      source.declare other d := by
    unfold declare
    split <;> rfl
  unfold readDataLine
  rw [mapError_bind, hdeclaration]
  simp only [hdeclare]

theorem take_atLine :
    (source.take number line).mapError (Fault.atLine other) = source.take other line := by
  unfold take
  split
  · exact source.beginSection_atLine number other line
  · split
    · rfl
    · exact source.readOperatorLine_atLine number other line
    · exact source.readDataLine_atLine number other line

theorem readLine_atLine :
    (source.readLine number line).mapError (Fault.atLine other) = source.readLine other line := by
  rw [readLine_eq_take, readLine_eq_take]
  split
  · rfl
  · exact source.take_atLine number other _

end AtLine

/-! ## Reading lines without numbers -/

/-- Read lines that say something, without numbers. -/
def readSaid (source : Source) : List String → Except Fault Source
  | [] => .ok source
  | line :: lines => do (← source.take 0 line).readSaid lines

/-- A source in which every block is closed. -/
def closed (source : Source) : Except Fault Source :=
  if source.inBlock then .error (.misplaced 0 .unclosedBlock) else .ok source

theorem readLines_cons (source : Source) (number : Nat) (line : String)
    (lines : List (Nat × String)) :
    source.readLines ((number, line) :: lines) =
      source.readLine number line >>= fun next => next.readLines lines := by
  rw [readLines]
  cases source.readLine number line <;> rfl

/-- But for the numbers, reading lines is reading what they say. -/
theorem readLines_atLine (source : Source) (number : Nat) (lines : List String) :
    (source.readLines (Text.numberFrom number lines)).mapError (Fault.atLine 0) =
      source.readSaid (saying lines) := by
  induction lines generalizing source number with
  | nil => rfl
  | cons line lines ih =>
      rw [Text.numberFrom, readLines_cons, mapError_bind, readLine_atLine, readLine_eq_take]
      simp only [ih]
      split
      · next hremark =>
          rw [saying_cons_remark hremark]
          rfl
      · next hsaid =>
          rw [saying_cons_said (Bool.eq_false_iff.mpr hsaid), readSaid]

theorem read_atLine (text : String) :
    (read text).mapError (Fault.atLine 0) =
      empty.readSaid (saying (Text.linesOf text)) >>= closed := by
  unfold read
  dsimp only
  rw [mapError_bind, readLines_atLine]
  congr 1
  funext source
  unfold closed
  split <;> rfl

end Source

/-! ## Compiling -/

/-- What fails once a source is read has no line. -/
theorem ofSource_atLine (number : Nat) (source : Source) :
    (ofSource source).mapError (Fault.atLine number) = ofSource source := by
  unfold ofSource
  rw [mapError_map, bindTracks_eq]
  split <;> rfl

/-- Compile lines that say something, without numbers. -/
def compileSaid (lines : List String) : Except Fault Task := do
  ofSource (← Source.empty.readSaid lines >>= Source.closed)

/-- But for the line of a fault, compiling a text is compiling what its lines say. -/
theorem compile_atLine (text : String) :
    (compile text).mapError (Fault.atLine 0) = compileSaid (saying (Text.linesOf text)) := by
  unfold compile compileSaid
  rw [mapError_bind, Source.read_atLine]
  simp only [ofSource_atLine]

/-- Lines between which remarks are put, and what comes of it. -/
inductive Remarked : List String → List String → Prop
  | nil : Remarked [] []
  | line (line : String) {lines others : List String} (h : Remarked lines others) :
      Remarked (line :: lines) (line :: others)
  | remark {line : String} (hremark : Text.isRemark (Text.trimmed line) = true)
      {lines others : List String} (h : Remarked lines others) : Remarked lines (line :: others)

theorem remarked_self (lines : List String) : Remarked lines lines := by
  induction lines with
  | nil => exact .nil
  | cons line lines ih => exact .line line ih

/-- Remarks may be put anywhere. -/
theorem remarked_insert (before after : List String) {remarks : List String}
    (h : ∀ line ∈ remarks, Text.isRemark (Text.trimmed line) = true) :
    Remarked (before ++ after) (before ++ (remarks ++ after)) := by
  induction before with
  | cons line before ih => exact .line line ih
  | nil =>
      induction remarks with
      | nil => exact remarked_self after
      | cons line remarks ih =>
          exact .remark (h line List.mem_cons_self)
            (ih fun other hmem => h other (List.mem_cons_of_mem line hmem))

/-- Remarks say nothing. -/
theorem Remarked.saying_eq {lines others : List String} (h : Remarked lines others) :
    saying others = saying lines := by
  induction h with
  | nil => rfl
  | line line h ih =>
      rw [← List.singleton_append, saying_append, ih, ← saying_append, List.singleton_append]
  | remark hremark h ih => rw [saying_cons_remark hremark, ih]

end Task

end CoreArray
