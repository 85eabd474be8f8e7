import CoreArray.Unicode.CaseFold
import CoreArray.Unicode.Marks
import CoreArray.Unicode.Pictures
import CoreArray.Unicode.Property
import CoreArray.Unicode.Signs
set_option autoImplicit false

/-!
# Binary properties

The properties that a character has or lacks, with the names that the Unicode
standard gives them.  Names are given here as they are compared: in small letters,
without blanks, hyphens and underscores.
-/

namespace CoreArray.Unicode

/-- A property that a character has or lacks. -/
inductive BinaryProperty where
  | alphabetic
  | asciiHexDigit
  | bidiControl
  | caseIgnorable
  | cased
  | changesWhenCasefolded
  | changesWhenCasemapped
  | changesWhenLowercased
  | changesWhenTitlecased
  | changesWhenUppercased
  | dash
  | defaultIgnorable
  | deprecated
  | diacritic
  | emoji
  | emojiComponent
  | emojiModifier
  | emojiModifierBase
  | emojiPresentation
  | extendedPictographic
  | extender
  | graphemeBase
  | graphemeExtend
  | hexDigit
  | idCompatMathContinue
  | idCompatMathStart
  | idContinue
  | idStart
  | ideographic
  | idsBinaryOperator
  | idsTrinaryOperator
  | idsUnaryOperator
  | joinControl
  | logicalOrderException
  | lowercase
  | math
  | modifierCombiningMark
  | noncharacter
  | patternSyntax
  | patternWhiteSpace
  | prependedConcatenationMark
  | quotationMark
  | radical
  | regionalIndicator
  | sentenceTerminal
  | softDotted
  | terminalPunctuation
  | unifiedIdeograph
  | uppercase
  | variationSelector
  | whiteSpace
  | xidContinue
  | xidStart
  deriving DecidableEq, Repr, Inhabited

/-! ## Letter case -/

/-- Whether other characters differ from a character in case alone. -/
def hasVariants (c : Char) : Bool := 1 < (caseVariants c).length

/-- Whether a character is a capital letter, or two letters of which the first is
one. -/
def isCapital (c : Char) : Bool := isUppercase c || categoryOf c = .titlecaseLetter

/-- Whether folding changes the parts of a character. -/
def changesFolded (c : Char) : Bool :=
  foldedToMany.has c || (foldCode c.toNat != c.toNat && !unfoldedApart.has c)

/-- Whether a character has a small form that is another. -/
def changesLowered (c : Char) : Bool := c = '\u0130' || (isCapital c && hasVariants c)

/-- Whether a character has a capital form that is another. -/
def changesRaised (c : Char) : Bool :=
  raisedToMany.has c || (!isUppercase c && hasVariants c)

/-- Whether a character has a form at the head of a title that is another. -/
def changesTitled (c : Char) : Bool :=
  titleOnly.has c || (changesRaised c && !titleKept.has c)

/-! ## Names -/

/-- Whether a character may begin a name. -/
def isIdStart (c : Char) : Bool :=
  let category := categoryOf c
  otherIdStart.has c ||
    ((category.group = .letter || category = .letterNumber) && !patternSyntax.has c)

/-- Whether a character may stand in a name. -/
def isIdContinue (c : Char) : Bool :=
  let category := categoryOf c
  isIdStart c || category = .nonspacingMark || category = .spacingMark ||
    category = .decimalNumber || category = .connectorPunctuation || otherIdContinue.has c

/-! ## Composed characters -/

/-- Whether a character extends the one before it to one that is read as a whole. -/
def extendsGrapheme (c : Char) : Bool := isExtending c || otherExtending.has c

/-- Whether a character can be read alone. -/
def isGraphemeBase (c : Char) : Bool :=
  let category := categoryOf c
  !(category.group = .other || category = .lineSeparator ||
    category = .paragraphSeparator || extendsGrapheme c)

namespace BinaryProperty

/-- Whether a character has a property. -/
def holds : BinaryProperty → Char → Bool
  | alphabetic, c => isAlphabetic c
  | asciiHexDigit, c => Text.isHexDigit c
  | bidiControl, c => bidiControls.has c
  | caseIgnorable, c =>
      [.nonspacingMark, .enclosingMark, .format, .modifierLetter, .modifierSymbol].contains
        (categoryOf c) || caseIgnored.has c
  | cased, c => isLowercase c || isCapital c
  | changesWhenCasefolded, c => changesFolded c
  | changesWhenCasemapped, c => changesLowered c || changesRaised c || changesTitled c
  | changesWhenLowercased, c => changesLowered c
  | changesWhenTitlecased, c => changesTitled c
  | changesWhenUppercased, c => changesRaised c
  | dash, c => categoryOf c = .dashPunctuation || otherDash.has c
  | defaultIgnorable, c => ignorable.has c
  | deprecated, c => Unicode.deprecated.has c
  | diacritic, c => diacritics.has c
  | emoji, c => Unicode.emoji.has c
  | emojiComponent, c => emojiComponents.has c
  | emojiModifier, c => emojiModifiers.has c
  | emojiModifierBase, c => emojiModifierBases.has c
  | emojiPresentation, c => emojiPresented.has c
  | extendedPictographic, c => pictographs.has c
  | extender, c => extenders.has c
  | graphemeBase, c => isGraphemeBase c
  | graphemeExtend, c => extendsGrapheme c
  | hexDigit, c => Text.isHexDigit c || otherHexDigit.has c
  | idCompatMathContinue, c => mathStart.has c || mathContinue.has c
  | idCompatMathStart, c => mathStart.has c
  | idContinue, c => isIdContinue c
  | idStart, c => isIdStart c
  | ideographic, c => Unicode.ideographic.has c
  | idsBinaryOperator, c => binaryOperators.has c
  | idsTrinaryOperator, c => trinaryOperators.has c
  | idsUnaryOperator, c => unaryOperators.has c
  | joinControl, c => isJoinControl c
  | logicalOrderException, c => logicalExceptions.has c
  | lowercase, c => isLowercase c
  | math, c => categoryOf c = .mathSymbol || otherMath.has c
  | modifierCombiningMark, c => innerMarks.has c
  | noncharacter, c => 0xFFFE ≤ c.toNat % 0x10000 || (0xFDD0 ≤ c.toNat && c.toNat ≤ 0xFDEF)
  | patternSyntax, c => Unicode.patternSyntax.has c
  | patternWhiteSpace, c => patternBlank.has c
  | prependedConcatenationMark, c => precedingSigns.has c
  | quotationMark, c => quotationMarks.has c
  | radical, c => radicals.has c
  | regionalIndicator, c => regionalIndicators.has c
  | sentenceTerminal, c => sentenceTerminals.has c
  | softDotted, c => Unicode.softDotted.has c
  | terminalPunctuation, c => terminals.has c
  | unifiedIdeograph, c => unifiedIdeographs.has c
  | uppercase, c => isUppercase c
  | variationSelector, c => variationSelectors.has c
  | whiteSpace, c => Text.isBlank c
  | xidContinue, c => isIdContinue c && !unsteadyContinue.has c
  | xidStart, c => isIdStart c && !unsteadyStart.has c

/-- The properties that hold of many ranges of characters. -/
def wide : List BinaryProperty :=
  [ alphabetic, cased, changesWhenCasefolded, changesWhenCasemapped, changesWhenLowercased
  , changesWhenTitlecased, changesWhenUppercased, graphemeBase, graphemeExtend, idContinue
  , idStart, lowercase, uppercase, xidContinue, xidStart ]

/-- The property of a name or its abbreviation. -/
def named? : String → Option BinaryProperty
  | "alphabetic" | "alpha" => some alphabetic
  | "asciihexdigit" | "ahex" => some asciiHexDigit
  | "bidicontrol" | "bidic" => some bidiControl
  | "caseignorable" | "ci" => some caseIgnorable
  | "cased" => some cased
  | "changeswhencasefolded" | "cwcf" => some changesWhenCasefolded
  | "changeswhencasemapped" | "cwcm" => some changesWhenCasemapped
  | "changeswhenlowercased" | "cwl" => some changesWhenLowercased
  | "changeswhentitlecased" | "cwt" => some changesWhenTitlecased
  | "changeswhenuppercased" | "cwu" => some changesWhenUppercased
  | "dash" => some dash
  | "defaultignorablecodepoint" | "di" => some defaultIgnorable
  | "deprecated" | "dep" => some deprecated
  | "diacritic" | "dia" => some diacritic
  | "emoji" => some emoji
  | "emojicomponent" | "ecomp" => some emojiComponent
  | "emojimodifier" | "emod" => some emojiModifier
  | "emojimodifierbase" | "ebase" => some emojiModifierBase
  | "emojipresentation" | "epres" => some emojiPresentation
  | "extendedpictographic" | "extpict" => some extendedPictographic
  | "extender" | "ext" => some extender
  | "graphemebase" | "grbase" => some graphemeBase
  | "graphemeextend" | "grext" => some graphemeExtend
  | "hexdigit" | "hex" => some hexDigit
  | "idcompatmathcontinue" => some idCompatMathContinue
  | "idcompatmathstart" => some idCompatMathStart
  | "idcontinue" | "idc" => some idContinue
  | "idstart" | "ids" => some idStart
  | "ideographic" | "ideo" => some ideographic
  | "idsbinaryoperator" | "idsb" => some idsBinaryOperator
  | "idstrinaryoperator" | "idst" => some idsTrinaryOperator
  | "idsunaryoperator" | "idsu" => some idsUnaryOperator
  | "joincontrol" | "joinc" => some joinControl
  | "logicalorderexception" | "loe" => some logicalOrderException
  | "lowercase" | "lower" => some lowercase
  | "math" => some math
  | "modifiercombiningmark" | "mcm" => some modifierCombiningMark
  | "noncharactercodepoint" | "nchar" => some noncharacter
  | "patternsyntax" | "patsyn" => some patternSyntax
  | "patternwhitespace" | "patws" => some patternWhiteSpace
  | "prependedconcatenationmark" | "pcm" => some prependedConcatenationMark
  | "quotationmark" | "qmark" => some quotationMark
  | "radical" => some radical
  | "regionalindicator" | "ri" => some regionalIndicator
  | "sentenceterminal" | "sterm" => some sentenceTerminal
  | "softdotted" | "sd" => some softDotted
  | "terminalpunctuation" | "term" => some terminalPunctuation
  | "unifiedideograph" | "uideo" => some unifiedIdeograph
  | "uppercase" | "upper" => some uppercase
  | "variationselector" | "vs" => some variationSelector
  | "whitespace" | "wspace" | "space" => some whiteSpace
  | "xidcontinue" | "xidc" => some xidContinue
  | "xidstart" | "xids" => some xidStart
  | _ => none

end BinaryProperty

end CoreArray.Unicode
