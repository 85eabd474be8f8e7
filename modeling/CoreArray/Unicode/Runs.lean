import CoreArray.Text.Hexadecimal
set_option autoImplicit false

/-!
# Tables of runs

A property of characters has one value on each of many runs of code points.  A
table lists the runs in order, each by the first of its code points and its
value; the last run that begins at or below a code point gives the value there.

A table is written in lines of words such as `41=Lu`: the first code point in
hexadecimal digits and the name of the value.
-/

namespace CoreArray.Unicode

/-- Runs in order: the first code point of each, and its value. -/
abbrev Runs (α : Type) : Type := Array (Nat × α)

namespace Runs

variable {α : Type}

/-- The value at a code point, whose run is known to be one of those from `low`
up to `high`, the latter left out.  Each turn halves their number. -/
def search (runs : Runs α) (code low high : Nat) : Option α :=
  if low + 1 < high then
    let middle := (low + high) / 2
    match runs[middle]? with
    | none => none
    | some (first, _) =>
        if first ≤ code then search runs code middle high else search runs code low middle
  else (runs[low]?).map Prod.snd
termination_by high - low

/-- The value at a code point. -/
def at? (runs : Runs α) (code : Nat) : Option α := runs.search code 0 runs.size

/-- Read a word of a table. -/
def readWord (value? : String → Option α) (word : List Char) : Option (Nat × α) := do
  let (code, name) ← Text.cutOnce (· == '=') word
  return (← Text.readHex code, ← value? (String.ofList name))

/-- The table that lines write. -/
def ofLines (value? : String → Option α) (lines : List String) : Runs α :=
  ((lines.flatMap fun line => Text.words line.toList).filterMap (readWord value?)).toArray

end Runs

end CoreArray.Unicode
