import CoreArray.Arithmetic
import CoreArray.Text.Numeral
set_option autoImplicit false

/-!
# Binary floating-point numbers of 64 bits

Latencies and throughputs are binary64 numbers.  A finite number is kept as its
sign, its significand and its exponent, with the value
`± significand * 2 ^ exponent`; `ofRatio` gives the number nearest to a quotient
of naturals, ties to the even significand, and everything else (reading a
decimal, conversion from a natural, division) is that one rounding.
-/

namespace CoreArray

/-- A binary64 number.  Finite numbers made by this library are normalised: the
significand is below `2 ^ 53`, and it is at least `2 ^ 52` unless the exponent
is the least one, `-1074`. -/
inductive Binary64 where
  | nan
  | infinite (negative : Bool)
  | finite (negative : Bool) (significand : Nat) (exponent : Int)
  deriving DecidableEq, Repr, Inhabited

namespace Binary64

/-- The exponent of the least positive number. -/
def minExponent : Int := -1074

/-- The exponent of the largest finite numbers. -/
def maxExponent : Int := 971

/-- The least significand of a number whose exponent is not the least one:
`2 ^ 52`. -/
def leastNormal : Nat := 4503599627370496

/-- A natural scaled up by a power of two given by an integer exponent; negative
exponents leave it as it is. -/
def scaleUp (n : Nat) (e : Int) : Nat := n * twoPow e.toNat

/-- The quotient of two naturals rounded to the nearest natural, a tie to the
even one. -/
def roundQuotient (num den : Nat) : Nat :=
  let q := num / den
  let r := num % den
  if 2 * r < den then q
  else if den < 2 * r then q + 1
  else q + q % 2

/-- The integer `k` with `2 ^ k ≤ num / den < 2 ^ (k + 1)`, for positive `num`
and `den`. -/
def floorLog2 (num den : Nat) : Int :=
  let k : Int := (num.log2 : Int) - (den.log2 : Int)
  if scaleUp den k ≤ scaleUp num (-k) then k else k - 1

/-- The number nearest to `± num / den`. -/
def ofRatio (negative : Bool) (num den : Nat) : Binary64 :=
  if num = 0 then finite negative 0 minExponent
  else
    let e := max (floorLog2 num den - 52) minExponent
    let m := roundQuotient (scaleUp num (-e)) (scaleUp den e)
    let (m, e) := if m = 2 * leastNormal then (leastNormal, e + 1) else (m, e)
    if maxExponent < e then infinite negative else finite negative m e

/-- The number nearest to a natural. -/
def ofNat (n : Nat) : Binary64 := ofRatio false n 1

/-- Neither infinite nor a non-number. -/
def isFinite : Binary64 → Bool
  | finite _ _ _ => true
  | _ => false

/-- Not below zero; both zeros are not, and a non-number fails every test. -/
def isNonneg : Binary64 → Bool
  | nan => false
  | infinite negative => !negative
  | finite negative m _ => !negative || m == 0

/-- At most zero; a non-number fails every test. -/
def isNonpos : Binary64 → Bool
  | nan => false
  | infinite negative => negative
  | finite negative m _ => negative || m == 0

/-- The quotient, correctly rounded. -/
def div : Binary64 → Binary64 → Binary64
  | nan, _ => nan
  | _, nan => nan
  | infinite _, infinite _ => nan
  | infinite s, finite t _ _ => infinite (s != t)
  | finite s _ _, infinite t => finite (s != t) 0 minExponent
  | finite s m e, finite t n f =>
      if n = 0 then if m = 0 then nan else infinite (s != t)
      else ofRatio (s != t) (scaleUp m (e - f)) (scaleUp n (f - e))

/-- The whole cycles in a number: the fraction is dropped, what is below zero or
no number counts as none, and what is too large as the last cycle of the
clock. -/
def toCycles : Binary64 → Nat
  | nan => 0
  | infinite negative => if negative then 0 else Text.maxUnsigned
  | finite negative m e =>
      if negative then 0 else min (scaleUp m e / twoPow (-e).toNat) Text.maxUnsigned

end Binary64

end CoreArray
