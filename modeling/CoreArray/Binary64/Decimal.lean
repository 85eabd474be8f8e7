import CoreArray.Binary64.Basic
set_option autoImplicit false

/-!
# Reading binary64 numbers from decimal notation

The notation is an optional sign, then digits with an optional point and an
optional decimal exponent, with a digit on at least one side of the point; or
one of the words `inf`, `infinity` and `nan` in any case.  The result is the
number nearest to the decimal.
-/

namespace CoreArray.Binary64

/-- Decimal digits, as numbers, at the front of a text, and the rest. -/
def takeDigits (text : List Char) : List Char × List Char :=
  (text.takeWhile Char.isDigit, text.dropWhile Char.isDigit)

/-- A decimal exponent: a sign and digits that end the text. -/
def readExponent : List Char → Option Int
  | '+' :: digits => (Text.readDigits digits).map fun n => (n : Int)
  | '-' :: digits => (Text.readDigits digits).map fun n => -(n : Int)
  | digits => (Text.readDigits digits).map fun n => (n : Int)

/-- The exponent part of a decimal, possibly absent. -/
def readExponentPart : List Char → Option Int
  | [] => some 0
  | c :: rest => if c = 'e' ∨ c = 'E' then readExponent rest else none

/-- Digits and a power of ten: the value `digits * 10 ^ power`. -/
structure Decimal where
  digits : Nat
  power : Int
  deriving DecidableEq, Repr, Inhabited

/-- Read an unsigned decimal. -/
def readDecimal (text : List Char) : Option Decimal :=
  let (whole, rest) := takeDigits text
  let (fraction, rest) :=
    match rest with
    | '.' :: rest => takeDigits rest
    | rest => ([], rest)
  match Text.readDigits (whole ++ fraction), readExponentPart rest with
  | some digits, some power => some ⟨digits, power - fraction.length⟩
  | _, _ => none

/-- The number nearest to a decimal.  A decimal far above the largest number or
far below the least positive one is settled by its order of magnitude. -/
def ofDecimal (negative : Bool) (d : Decimal) : Binary64 :=
  if d.digits = 0 then finite negative 0 minExponent
  else
    let magnitude : Int := d.power + (toString d.digits).length
    if 400 < magnitude then infinite negative
    else if magnitude < -400 then finite negative 0 minExponent
    else ofRatio negative (d.digits * tenPow d.power.toNat) (tenPow (-d.power).toNat)

/-- Read a number without its sign. -/
def readMagnitude (negative : Bool) (text : List Char) : Option Binary64 :=
  let word := text.map Char.toLower
  if word = "inf".toList ∨ word = "infinity".toList then some (infinite negative)
  else if word = "nan".toList then some nan
  else (readDecimal text).map (ofDecimal negative)

/-- Read a number. -/
def read : List Char → Option Binary64
  | '+' :: rest => readMagnitude false rest
  | '-' :: rest => readMagnitude true rest
  | text => readMagnitude false text

/-- Read a number from a string. -/
def ofString? (text : String) : Option Binary64 := read text.toList

end CoreArray.Binary64
