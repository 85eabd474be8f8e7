set_option autoImplicit false

/-!
# General categories

Every code point belongs to one of thirty general categories, each with a code of
two letters.  The first letter names the group that the category is in.
-/

namespace CoreArray.Unicode

/-- A general category. -/
inductive Category where
  | uppercaseLetter
  | lowercaseLetter
  | titlecaseLetter
  | modifierLetter
  | otherLetter
  | nonspacingMark
  | spacingMark
  | enclosingMark
  | decimalNumber
  | letterNumber
  | otherNumber
  | connectorPunctuation
  | dashPunctuation
  | openPunctuation
  | closePunctuation
  | initialPunctuation
  | finalPunctuation
  | otherPunctuation
  | mathSymbol
  | currencySymbol
  | modifierSymbol
  | otherSymbol
  | spaceSeparator
  | lineSeparator
  | paragraphSeparator
  | control
  | format
  | surrogate
  | privateUse
  | unassigned
  deriving DecidableEq, Repr, Inhabited

/-- A group of general categories. -/
inductive Group where
  | letter
  | mark
  | number
  | punctuation
  | symbol
  | separator
  | other
  deriving DecidableEq, Repr, Inhabited

namespace Category

/-- All categories with their codes. -/
def codes : List (Category × String) :=
  [ (uppercaseLetter, "Lu"), (lowercaseLetter, "Ll"), (titlecaseLetter, "Lt")
  , (modifierLetter, "Lm"), (otherLetter, "Lo"), (nonspacingMark, "Mn"), (spacingMark, "Mc")
  , (enclosingMark, "Me"), (decimalNumber, "Nd"), (letterNumber, "Nl"), (otherNumber, "No")
  , (connectorPunctuation, "Pc"), (dashPunctuation, "Pd"), (openPunctuation, "Ps")
  , (closePunctuation, "Pe"), (initialPunctuation, "Pi"), (finalPunctuation, "Pf")
  , (otherPunctuation, "Po"), (mathSymbol, "Sm"), (currencySymbol, "Sc")
  , (modifierSymbol, "Sk"), (otherSymbol, "So"), (spaceSeparator, "Zs"), (lineSeparator, "Zl")
  , (paragraphSeparator, "Zp"), (control, "Cc"), (format, "Cf"), (surrogate, "Cs")
  , (privateUse, "Co"), (unassigned, "Cn") ]

/-- The category of a code. -/
def ofCode? (code : String) : Option Category :=
  (codes.find? fun (_, other) => other == code).map Prod.fst

/-- The group of a category. -/
def group : Category → Group
  | uppercaseLetter | lowercaseLetter | titlecaseLetter | modifierLetter | otherLetter => .letter
  | nonspacingMark | spacingMark | enclosingMark => .mark
  | decimalNumber | letterNumber | otherNumber => .number
  | connectorPunctuation | dashPunctuation | openPunctuation | closePunctuation
  | initialPunctuation | finalPunctuation | otherPunctuation => .punctuation
  | mathSymbol | currencySymbol | modifierSymbol | otherSymbol => .symbol
  | spaceSeparator | lineSeparator | paragraphSeparator => .separator
  | control | format | surrogate | privateUse | unassigned => .other

/-- Whether a letter belongs to a pair of cases. -/
def isCasedLetter : Category → Bool
  | uppercaseLetter | lowercaseLetter | titlecaseLetter => true
  | _ => false

end Category

end CoreArray.Unicode
