import CoreArray.Log.Event
set_option autoImplicit false

/-!
# Buffered logs (SPEC §10.2)

What is written to an output through a buffer waits there until there is no room for
the next part, or the output is closed.  What others write to the same output
meanwhile comes before what waits.
-/

namespace CoreArray

/-- An output behind a buffer: what has been passed on to it, and what waits. -/
structure LogBuffer where
  passed : String
  waiting : String
  deriving DecidableEq, Repr, Inhabited

namespace LogBuffer

/-- The size of a buffer, in bytes. -/
def capacity : Nat := 8192

/-- The buffer before anything is written. -/
def empty : LogBuffer := ⟨"", ""⟩

/-- All that was written. -/
def text (buffer : LogBuffer) : String := buffer.passed ++ buffer.waiting

/-- Pass on what waits. -/
def flush (buffer : LogBuffer) : LogBuffer := ⟨buffer.text, ""⟩

/-- Let a part wait. -/
def keep (buffer : LogBuffer) (part : String) : LogBuffer :=
  ⟨buffer.passed, buffer.waiting ++ part⟩

/-- Write a part.  If there is no room for it, what waits is passed on first; a part
as large as the buffer does not wait itself. -/
def put (buffer : LogBuffer) (part : String) : LogBuffer :=
  let hasRoom := buffer.waiting.utf8ByteSize + part.utf8ByteSize ≤ capacity
  let buffer := if hasRoom then buffer else buffer.flush
  if part.utf8ByteSize < capacity then buffer.keep part else (buffer.keep part).flush

/-- Write events, each in its parts and with the end of its line. -/
def ofEvents (events : List Event) : LogBuffer :=
  events.foldl (fun buffer event => (event.parts ++ ["\n"]).foldl put buffer) empty

end LogBuffer

end CoreArray
