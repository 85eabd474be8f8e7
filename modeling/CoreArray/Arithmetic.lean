set_option autoImplicit false

/-!
# Powers and words

The powers of two and of ten by which numbers are scaled, and arithmetic in words of
64 bits.  A sum or product that does not fit its word wraps: the word keeps its low
bits.  Products of words may be wrapped once for all at the end (`wrap_mul_wrap`), and
nothing is lost where the number meant fits a word (`wrap_of_fitsWord`).  A build that
checks its arithmetic stops instead of wrapping.
-/

namespace CoreArray

/-- Two to a power. -/
def twoPow (k : Nat) : Nat := Nat.pow 2 k

/-- Ten to a power. -/
def tenPow (k : Nat) : Nat := Nat.pow 10 k

/-! ## Words -/

/-- The number of values that a word has. -/
def wordSize : Nat := 18446744073709551616

/-- What a word keeps of a number. -/
def wrap (n : Nat) : Nat := n % wordSize

/-- Whether a number fits a word. -/
def FitsWord (n : Nat) : Prop := n < wordSize

instance (n : Nat) : Decidable (FitsWord n) := inferInstanceAs (Decidable (_ < _))

/-- The product of numbers, wrapped from factor to factor. -/
def wordProduct (xs : List Nat) : Nat := xs.foldl (fun product x => wrap (product * x)) 1

theorem wrap_of_fitsWord {n : Nat} (h : FitsWord n) : wrap n = n := Nat.mod_eq_of_lt h

theorem wrap_le (n : Nat) : wrap n ≤ n := Nat.mod_le n wordSize

theorem fitsWord_wrap (n : Nat) : FitsWord (wrap n) := Nat.mod_lt n (by decide)

theorem wrap_mul_wrap (m n : Nat) : wrap (wrap m * n) = wrap (m * n) :=
  Nat.mod_mul_mod m n wordSize

end CoreArray
