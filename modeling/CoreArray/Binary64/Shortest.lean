import CoreArray.Binary64.Decimal
set_option autoImplicit false

/-!
# The shortest decimal of a binary64 number

A number is written with the fewest digits that read back as that number, and
among those with the decimal nearest to it.  The decimals that read back form
the rounding interval, which has its ends exactly if the significand is even.
The digits are laid out without an exponent, however many zeros that takes.
-/

namespace CoreArray.Binary64

/-- A positive rational: `num / den`. -/
structure Quotient where
  num : Nat
  den : Nat
  deriving DecidableEq, Repr, Inhabited

/-- The rational `n * 2 ^ e`. -/
def Quotient.ofScaled (n : Nat) (e : Int) : Quotient := ⟨scaleUp n e, scaleUp 1 (-e)⟩

/-- The rational `n * 10 ^ e`. -/
def Quotient.ofDecimal (n : Nat) (e : Int) : Quotient := ⟨n * tenPow e.toNat, tenPow (-e).toNat⟩

/-- Order of rationals. -/
def Quotient.le (a b : Quotient) : Bool := a.num * b.den ≤ b.num * a.den

/-- Strict order of rationals. -/
def Quotient.lt (a b : Quotient) : Bool := a.num * b.den < b.num * a.den

/-- Whether a decimal lies in the rounding interval of `m * 2 ^ e`.  Below a
power of two the neighbour is half as far as above, the least exponent
excepted. -/
def readsBack (m : Nat) (e : Int) (d : Quotient) : Bool :=
  let low :=
    if m = leastNormal ∧ minExponent < e then Quotient.ofScaled (4 * m - 1) (e - 2)
    else Quotient.ofScaled (2 * m - 1) (e - 1)
  let high := Quotient.ofScaled (2 * m + 1) (e - 1)
  if m % 2 = 0 then low.le d && d.le high else low.lt d && d.lt high

/-- The least `t`, from `start` upwards, with `1 ≤ q * 10 ^ t`. -/
def leadingPlace (q : Quotient) : (fuel start : Nat) → Nat
  | 0, start => start
  | fuel + 1, start =>
      if q.den ≤ q.num * tenPow start then start else leadingPlace q fuel (start + 1)

/-- The number of decimal digits before the point: the exponent `p` with
`10 ^ (p - 1) ≤ q < 10 ^ p`. -/
def decimalWidth (q : Quotient) : Int :=
  if q.den ≤ q.num then (toString (q.num / q.den)).length
  else 1 - (leadingPlace q 400 1 : Int)

/-- The decimal with `n` digits nearest to `q` among those that read back as
`m * 2 ^ e`; of two equally near ones the larger. -/
def withDigits? (m : Nat) (e : Int) (q : Quotient) (n : Nat) : Option Decimal :=
  let power := decimalWidth q - n
  let num := q.num * tenPow (-power).toNat
  let den := q.den * tenPow power.toNat
  let below := num / den
  let candidates := if 2 * (num % den) < den then [below, below + 1] else [below + 1, below]
  (candidates.find? fun d => readsBack m e (Quotient.ofDecimal d power)).map fun d => ⟨d, power⟩

/-- The shortest decimal that reads back as `m * 2 ^ e`, for a positive `m`.
Seventeen digits always suffice. -/
def shortest (m : Nat) (e : Int) : Decimal :=
  let q := Quotient.ofScaled m e
  ((List.range 17).findSome? fun i => withDigits? m e q (i + 1)).getD ⟨m, 0⟩

/-- Digits in positional notation. -/
def Decimal.text (d : Decimal) : String :=
  let digits := (toString d.digits).toList
  if 0 ≤ d.power then String.ofList (digits ++ List.replicate d.power.toNat '0')
  else
    let places := (-d.power).toNat
    if places < digits.length then
      let whole := digits.length - places
      String.ofList (digits.take whole ++ '.' :: digits.drop whole)
    else
      "0." ++ String.ofList (List.replicate (places - digits.length) '0' ++ digits)

/-- A decimal without zeros at the end of its digits. -/
def Decimal.stripped (d : Decimal) : Decimal :=
  let digits := (toString d.digits).toList
  let zeros := (digits.reverse.takeWhile (· == '0')).length
  if zeros < digits.length then ⟨d.digits / tenPow zeros, d.power + zeros⟩ else d

/-- The text of a number. -/
def text : Binary64 → String
  | nan => "NaN"
  | infinite negative => if negative then "-inf" else "inf"
  | finite negative m e =>
      let magnitude := if m = 0 then "0" else (shortest m e).stripped.text
      if negative then "-" ++ magnitude else magnitude

end CoreArray.Binary64
