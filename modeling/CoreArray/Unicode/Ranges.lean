import CoreArray.Text.Hexadecimal
set_option autoImplicit false

/-!
# Ranges of characters

A set of characters that has no other rule is a list of ranges of code points.  It is
written in lines of words such as `30-39` and `5F`: the two ends of a range in
hexadecimal digits, or its only code point.
-/

namespace CoreArray.Unicode

/-- Ranges of code points, their ends included. -/
abbrev Ranges : Type := List (Nat × Nat)

namespace Ranges

/-- Whether a character lies in one of the ranges. -/
def has (ranges : Ranges) (c : Char) : Bool :=
  ranges.any fun (low, high) => low ≤ c.toNat && c.toNat ≤ high

/-- Read a word for a range. -/
def readWord (word : List Char) : Option (Nat × Nat) :=
  match Text.cutOnce (· == '-') word with
  | some (low, high) => do return (← Text.readHex low, ← Text.readHex high)
  | none => (Text.readHex word).map fun code => (code, code)

/-- The ranges that lines write. -/
def ofLines (lines : List String) : Ranges :=
  (lines.flatMap fun line => Text.words line.toList).filterMap readWord

end Ranges

end CoreArray.Unicode
