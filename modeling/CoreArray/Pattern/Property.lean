import CoreArray.Pattern.CharClass
set_option autoImplicit false

/-!
# Properties in patterns

A pattern names properties of characters: a general category or a group of them,
a script, or a property that is one of its own.  Names are compared without regard
to case, blanks, hyphens and underscores, and `is` may precede them.
-/

namespace CoreArray.Pattern

/-- A name as it is compared. -/
def plainName (name : List Char) : String :=
  let letters := (name.filter fun c =>
    c.toNat < 128 && c != ' ' && c != '_' && c != '-').map Char.toLower
  match name.take 2 |>.map Char.toLower with
  | ['i', 's'] => if letters = ['i', 's', 'c'] then "isc" else String.ofList (letters.drop 2)
  | _ => String.ofList letters

/-- The class of a general category, a group of them, or one of three wider
classes. -/
def categoryNamed? : String → Option CharClass
  | "any" => some .all
  | "assigned" => some (.complement (.category .unassigned))
  | "ascii" => some .ascii
  | "l" | "letter" => some (.group .letter)
  | "lc" | "casedletter" => some .casedLetter
  | "lu" | "uppercaseletter" => some (.category .uppercaseLetter)
  | "ll" | "lowercaseletter" => some (.category .lowercaseLetter)
  | "lt" | "titlecaseletter" => some (.category .titlecaseLetter)
  | "lm" | "modifierletter" => some (.category .modifierLetter)
  | "lo" | "otherletter" => some (.category .otherLetter)
  | "m" | "mark" | "combiningmark" => some (.group .mark)
  | "mn" | "nonspacingmark" => some (.category .nonspacingMark)
  | "mc" | "spacingmark" => some (.category .spacingMark)
  | "me" | "enclosingmark" => some (.category .enclosingMark)
  | "n" | "number" => some (.group .number)
  | "nd" | "decimalnumber" | "digit" => some (.category .decimalNumber)
  | "nl" | "letternumber" => some (.category .letterNumber)
  | "no" | "othernumber" => some (.category .otherNumber)
  | "p" | "punctuation" | "punct" => some (.group .punctuation)
  | "pc" | "connectorpunctuation" => some (.category .connectorPunctuation)
  | "pd" | "dashpunctuation" => some (.category .dashPunctuation)
  | "ps" | "openpunctuation" => some (.category .openPunctuation)
  | "pe" | "closepunctuation" => some (.category .closePunctuation)
  | "pi" | "initialpunctuation" => some (.category .initialPunctuation)
  | "pf" | "finalpunctuation" => some (.category .finalPunctuation)
  | "po" | "otherpunctuation" => some (.category .otherPunctuation)
  | "s" | "symbol" => some (.group .symbol)
  | "sm" | "mathsymbol" => some (.category .mathSymbol)
  | "sc" | "currencysymbol" => some (.category .currencySymbol)
  | "sk" | "modifiersymbol" => some (.category .modifierSymbol)
  | "so" | "othersymbol" => some (.category .otherSymbol)
  | "z" | "separator" => some (.group .separator)
  | "zs" | "spaceseparator" => some (.category .spaceSeparator)
  | "zl" | "lineseparator" => some (.category .lineSeparator)
  | "zp" | "paragraphseparator" => some (.category .paragraphSeparator)
  | "c" | "other" => some (.group .other)
  | "cc" | "control" | "cntrl" => some (.category .control)
  | "cf" | "format" => some (.category .format)
  | "co" | "privateuse" => some (.category .privateUse)
  | "cn" | "unassigned" => some (.category .unassigned)
  | _ => none

/-- The script of a code or a name. -/
def scriptNamed? (name : String) : Option Unicode.Script :=
  let isNamed (entry : Unicode.Script × String) : Bool :=
    plainName entry.1.toList == name || plainName entry.2.toList == name
  (Unicode.scriptNames.find? isNamed).map Prod.fst

/-- The class of a property of any kind. -/
def propertyNamed? (name : List Char) : Option CharClass :=
  let name := plainName name
  ((Unicode.BinaryProperty.named? name).map .binary <|> categoryNamed? name) <|>
    (scriptNamed? name).map .script

/-- The class of a property of a kind: a general category, a script, or the use in one. -/
def propertyOfKind? (kind value : List Char) : Option CharClass :=
  match plainName kind with
  | "gc" | "generalcategory" => categoryNamed? (plainName value)
  | "sc" | "script" => (scriptNamed? (plainName value)).map .script
  | "scx" | "scriptextensions" => (scriptNamed? (plainName value)).map .usedIn
  | _ => none

/-- The class of what stands in braces: a name, or a kind and a value with an equals
sign or a colon between them; `!=` asks for the other characters. -/
def propertyOf? (text : List Char) : Option CharClass :=
  match Text.cutAt ['!', '='] text with
  | some (kind, value) => (propertyOfKind? kind value).map .complement
  | none =>
      match Text.cutOnce (· == ':') text with
      | some (kind, value) => propertyOfKind? kind value
      | none =>
          match Text.cutOnce (· == '=') text with
          | some (kind, value) => propertyOfKind? kind value
          | none => propertyNamed? text

end CoreArray.Pattern
