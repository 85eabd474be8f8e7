import CoreArray.Text.Pieces
import CoreArray.Unicode.BinaryProperty
import CoreArray.Unicode.ScriptExtensions
set_option autoImplicit false

/-!
# Classes of characters

A pattern describes single characters by classes: ranges, properties, and what
can be put together from them.
-/

namespace CoreArray

/-- A class of characters. -/
inductive CharClass where
  | none
  /-- The characters of a range, its ends included. -/
  | range (low high : Char)
  | digit
  /-- What makes up words. -/
  | word
  | casedLetter
  | category (kind : Unicode.Category)
  | group (kind : Unicode.Group)
  | binary (property : Unicode.BinaryProperty)
  /-- The characters of a script. -/
  | script (code : Unicode.Script)
  /-- The characters that are used in a script. -/
  | usedIn (code : Unicode.Script)
  | union (a b : CharClass)
  | inter (a b : CharClass)
  | complement (a : CharClass)
  /-- The characters that differ in case at most from one of the class. -/
  | anyCase (a : CharClass)
  deriving DecidableEq, Repr, Inhabited

namespace CharClass

/-- Whether a character belongs to a class. -/
def has : CharClass → Char → Bool
  | none, _ => false
  | range low high, c => low.val ≤ c.val && c.val ≤ high.val
  | digit, c => Unicode.isDigit c
  | word, c => Unicode.isWordChar c
  | casedLetter, c => (Unicode.categoryOf c).isCasedLetter
  | category kind, c => Unicode.categoryOf c = kind
  | group kind, c => (Unicode.categoryOf c).group = kind
  | binary property, c => property.holds c
  | script code, c => Unicode.scriptOf c = code
  | usedIn code, c => (Unicode.scriptsOf c).contains code
  | union a b, c => a.has c || b.has c
  | inter a b, c => a.has c && b.has c
  | complement a, c => !a.has c
  | anyCase a, c => (Unicode.caseVariants c).any a.has

/-- The class of one character. -/
def single (c : Char) : CharClass := range c c

/-- The blanks. -/
def blank : CharClass := binary .whiteSpace

/-- The class of all characters. -/
def all : CharClass := complement none

/-- The class of the ASCII characters. -/
def ascii : CharClass := range '\x00' '\x7f'

/-- The class of the members of a list. -/
def ofList : List CharClass → CharClass
  | [] => none
  | [a] => a
  | a :: rest => union a (ofList rest)

/-- The members of one class that are none of another. -/
def difference (a b : CharClass) : CharClass := inter a (complement b)

/-- The characters of exactly one of two classes. -/
def symmetricDifference (a b : CharClass) : CharClass := union (difference a b) (difference b a)

/-! ## Classes of ASCII characters -/

/-- The ASCII digits. -/
def asciiDigit : CharClass := range '0' '9'

/-- The ASCII letters. -/
def asciiLetter : CharClass := union (range 'A' 'Z') (range 'a' 'z')

/-- The ASCII characters that make up words. -/
def asciiWord : CharClass := union (single '_') (union asciiDigit asciiLetter)

/-- The ASCII blanks. -/
def asciiBlank : CharClass := union (single ' ') (range '\t' '\r')

/-- The class of ASCII characters of a name. -/
def asciiNamed? : String → Option CharClass
  | "alnum" => some (union asciiDigit asciiLetter)
  | "alpha" => some asciiLetter
  | "ascii" => some ascii
  | "blank" => some (union (single ' ') (single '\t'))
  | "cntrl" => some (union (range '\x00' '\x1f') (single '\x7f'))
  | "digit" => some asciiDigit
  | "graph" => some (range '!' '~')
  | "lower" => some (range 'a' 'z')
  | "print" => some (range ' ' '~')
  | "punct" =>
      some (ofList [range '!' '/', range ':' '@', range '[' '\x60', range '\x7b' '~'])
  | "space" => some asciiBlank
  | "upper" => some (range 'A' 'Z')
  | "word" => some asciiWord
  | "xdigit" => some (ofList [asciiDigit, range 'A' 'F', range 'a' 'f'])
  | _ => Option.none

/-- A class adds no more than this to the size of a pattern, since however it is put
together it comes down to one set of ranges. -/
def largestWeight : Nat := 60000

/-- About how much a class adds to the size of a pattern.  A class of few ranges is
small; one that follows the tables of all characters is large. -/
def weight : CharClass → Nat
  | none => 32
  | range low high => if high.toNat < 128 then 40 else if low = high then 32 * high.utf8Size else 200
  | digit => 4000
  | word => 45000
  | casedLetter => 10000
  | category _ => 10000
  | group _ => 40000
  | binary .whiteSpace => 500
  | binary property => if Unicode.BinaryProperty.wide.contains property then 45000 else 10000
  | script _ => 2000
  | usedIn _ => 2000
  | union a b => min largestWeight (a.weight + b.weight)
  | inter a b => min largestWeight (a.weight + b.weight)
  | complement a => min largestWeight (a.weight + 400)
  | anyCase a => min largestWeight (2 * a.weight)

end CharClass

end CoreArray
