import CoreArray.Text.Pieces
set_option autoImplicit false

/-!
# Hexadecimal numbers in a text

Code points are written in hexadecimal digits, and read from digits in either
case.
-/

namespace CoreArray.Text

/-- A number in hexadecimal digits. -/
def hexText (n : Nat) : String := String.ofList (Nat.toDigits 16 n)

/-- The value of a hexadecimal digit. -/
def hexDigit? (c : Char) : Option Nat :=
  if c.isDigit then some (c.toNat - '0'.toNat)
  else if 'a' ≤ c ∧ c ≤ 'f' then some (c.toNat - 'a'.toNat + 10)
  else if 'A' ≤ c ∧ c ≤ 'F' then some (c.toNat - 'A'.toNat + 10)
  else none

/-- Whether a character is a hexadecimal digit. -/
def isHexDigit (c : Char) : Bool := (hexDigit? c).isSome

/-- The number written by hexadecimal digits, continuing a number already read. -/
def hexFrom (read : Nat) : List Char → Option Nat
  | [] => some read
  | c :: rest => (hexDigit? c).bind fun digit => hexFrom (16 * read + digit) rest

/-- The number written by one or more hexadecimal digits. -/
def readHex (digits : List Char) : Option Nat :=
  if digits.isEmpty then none else hexFrom 0 digits

/-- The character of a code point, if it is one of a character. -/
def charOfCode? (code : Nat) : Option Char :=
  if code.isValidChar then some (Char.ofNat code) else none

/-- The character whose code point hexadecimal digits write. -/
def charOfHex? (digits : List Char) : Option Char := (readHex digits).bind charOfCode?

end CoreArray.Text
