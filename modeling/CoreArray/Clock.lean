import CoreArray.Binary64.Basic
set_option autoImplicit false

/-!
# Cycles and completion (SPEC §10.6)

The clock counts cycles from zero in 64 bits.  Handing an instruction to a unit
has an outcome: the instruction completes at a known cycle, or it has to be
tried again.  A track remembers the last outcome as a marker.
-/

namespace CoreArray

/-- A clock cycle. -/
abbrev Cycle : Type := Nat

/-- The last cycle that the clock can show. -/
def lastCycle : Cycle := Text.maxUnsigned

/-- What a unit answers to an instruction that it does not refuse. -/
inductive Outcome where
  /-- The instruction completes at this cycle. -/
  | complete (doneAt : Cycle)
  /-- The instruction has to be tried again. -/
  | notYet
  deriving DecidableEq, Repr, Inhabited

/-- The completion of work begun at a cycle; a fraction of a cycle is
dropped. -/
def Outcome.after (cycle : Cycle) (work : Binary64) : Outcome :=
  .complete (cycle + work.toCycles)

/-- The cycle from which a track may go on.  It is unset before the first
instruction and after one that has to be tried again. -/
inductive Marker where
  | unset
  | at (cycle : Cycle)
  deriving DecidableEq, Repr, Inhabited

namespace Marker

/-- The marker that an outcome leaves. -/
def ofOutcome : Outcome → Marker
  | .complete doneAt => .at doneAt
  | .notYet => .unset

/-- Whether the marker lies strictly after a cycle. -/
def isAfter : Marker → Cycle → Bool
  | unset, _ => false
  | .at doneAt, cycle => cycle < doneAt

/-- Whether the marker is set. -/
def isSet : Marker → Bool
  | unset => false
  | .at _ => true

/-- A marker in a text: its cycle, or `-`. -/
def text : Marker → String
  | unset => "-"
  | .at doneAt => toString doneAt

end Marker

end CoreArray
