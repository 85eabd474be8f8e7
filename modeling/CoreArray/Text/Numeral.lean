import CoreArray.Text.Pieces
set_option autoImplicit false

/-!
# Decimal integers in a text

An integer is read from an optional sign and at least one ASCII digit, and only
if it lies in the range of its sort: operands and tensor names are signed 64-bit
numbers, cycles, nodes and sizes unsigned ones.  A sign `-` is refused by the
unsigned sort even before zero.
-/

namespace CoreArray.Text

/-- The largest unsigned 64-bit number. -/
def maxUnsigned : Nat := 18446744073709551615

/-- The largest signed 64-bit number. -/
def maxSigned : Nat := 9223372036854775807

/-- The number written by decimal digits, continuing a number already read;
`none` if a character is not an ASCII digit. -/
def digitsFrom (read : Nat) : List Char → Option Nat
  | [] => some read
  | c :: rest =>
      if c.isDigit then digitsFrom (10 * read + (c.toNat - '0'.toNat)) rest else none

/-- The number written by one or more decimal digits. -/
def readDigits : List Char → Option Nat
  | [] => none
  | c :: rest => digitsFrom 0 (c :: rest)

/-- Keep an unsigned number that is in range. -/
def inUnsignedRange (n : Nat) : Option Nat := if n ≤ maxUnsigned then some n else none

/-- Keep a signed number that is in range. -/
def inSignedRange (i : Int) : Option Int :=
  if -(maxSigned : Int) - 1 ≤ i ∧ i ≤ maxSigned then some i else none

/-- Read an unsigned 64-bit number: digits after an optional `+`. -/
def readUnsigned : List Char → Option Nat
  | '+' :: digits => (readDigits digits).bind inUnsignedRange
  | digits => (readDigits digits).bind inUnsignedRange

/-- Read a signed 64-bit number: digits after an optional sign. -/
def readSigned : List Char → Option Int
  | '+' :: digits => (readDigits digits).bind fun n => inSignedRange n
  | '-' :: digits => (readDigits digits).bind fun n => inSignedRange (-(n : Int))
  | digits => (readDigits digits).bind fun n => inSignedRange n

/-- Read an unsigned 64-bit number from a string. -/
def unsigned? (text : String) : Option Nat := readUnsigned text.toList

/-- Read a signed 64-bit number from a string. -/
def signed? (text : String) : Option Int := readSigned text.toList

/-- The signed number with the same low 64 bits. -/
def wrapSigned (n : Nat) : Int := Int.bmod n (maxUnsigned + 1)

/-- A number in the signed range is not changed by wrapping. -/
theorem wrapSigned_of_le {n : Nat} (h : n ≤ maxSigned) : wrapSigned n = n := by
  unfold wrapSigned maxUnsigned
  unfold maxSigned at h
  rw [Int.bmod_eq_of_le] <;> omega

end CoreArray.Text
