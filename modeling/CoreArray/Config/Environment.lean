import CoreArray.Config.Setting
import CoreArray.Config.Toml.Document
import CoreArray.Binary64.Decimal
set_option autoImplicit false

/-!
# Settings from the environment (SPEC §10.4)

A variable whose name begins with `SPATIAL_`, in any case, gives the setting
named by the rest of it in lower case.  Its value may be written as a truth
value, a number, a text in quotes or a list in brackets; a value in no such
notation is the text itself.
-/

namespace CoreArray

/-- The variables of an environment with their values; of several for one setting
the last holds. -/
abbrev Environment : Type := List (String × String)

namespace Environment

/-- The beginning of the names that give settings. -/
def namePrefix : String := "SPATIAL_"

/-! ## Values -/

/-- Whether a character separates values from each other. -/
def isSeparator (c : Char) : Bool :=
  c == ',' || c == '\x7b' || c == '\x7d' || c == '[' || c == ']'

/-- The ASCII blanks. -/
def isBlank (c : Char) : Bool :=
  c == ' ' || c == '\t' || c == '\n' || c == '\r' || c == '\x0c'

/-- Leave out blanks. -/
def skipBlanks (text : List Char) : List Char := text.dropWhile isBlank

/-- The setting of a value without notation of its own. -/
def plainSetting (chars : List Char) : Setting :=
  let chars := Text.trim chars
  if chars.contains '.' && (Binary64.read chars).isSome then .other
  else
    match Text.readUnsigned chars, Text.readSigned chars with
    | some n, _ => .integer n
    | none, some n => .integer n
    | none, none => .text (String.ofList chars)

/-- The text without a word that it begins with. -/
def dropWord? (word text : List Char) : Option (List Char) :=
  if word.isPrefixOf text then some (text.drop word.length) else none

/-- The longest beginning of a text that takes at most a number of bytes. -/
def takeBytes : (bytes : Nat) → List Char → List Char
  | _, [] => []
  | bytes, c :: rest => if c.utf8Size ≤ bytes then c :: takeBytes (bytes - c.utf8Size) rest else []

/-- A text in quotes after the first of them.  Of what stands before the first
backslash, only as many bytes are kept as there are characters. -/
def readQuoted (text : List Char) : Option (List Char × List Char) := do
  let (chars, rest) ← Toml.readBasic (text.length + 1) text
  let plain := text.takeWhile fun c => c != '\\' && c != '"'
  match text.drop plain.length with
  | '\\' :: _ => return (takeBytes plain.length plain ++ chars.drop plain.length, rest)
  | _ => return (chars, rest)

/-- The rest of a text after a key: a text in quotes, or at least one letter,
digit, hyphen or underscore. -/
def dropKey (text : List Char) : Option (List Char) :=
  match text with
  | '"' :: rest => (readQuoted rest).map Prod.snd
  | text =>
      let rest := text.dropWhile Toml.isKeyChar
      if rest.length < text.length then some rest else none

mutual

/-- A value between blanks. -/
def readValue (fuel : Nat) (text : List Char) : Option (Setting × List Char) :=
  match fuel with
  | 0 => none
  | fuel + 1 => do
      let text := skipBlanks text
      let (value, rest) ←
        match dropWord? "true".toList text, dropWord? "false".toList text with
        | some rest, _ => some (.flag true, rest)
        | none, some rest => some (.flag false, rest)
        | none, none =>
            match text with
            | '[' :: rest => (readItems fuel rest).map fun (items, rest) => (.list items, rest)
            | '\x7b' :: rest => (readPairs fuel rest).map fun rest => (.other, rest)
            | '"' :: rest => (readQuoted rest).map fun (chars, rest) =>
                (.text (String.ofList chars), rest)
            | '\'' :: c :: '\'' :: rest => some (.text (String.singleton c), rest)
            | '\'' :: _ => none
            | text =>
                some (plainSetting (text.takeWhile fun c => !isSeparator c),
                  text.dropWhile fun c => !isSeparator c)
      return (value, skipBlanks rest)

/-- The items of a list up to its closing bracket; a comma may follow the last. -/
def readItems (fuel : Nat) (text : List Char) : Option (List Setting × List Char) :=
  match fuel with
  | 0 => none
  | fuel + 1 =>
      match text with
      | ']' :: rest => some ([], rest)
      | text => do
          let (item, rest) ← readValue fuel text
          match rest with
          | ',' :: rest => do
              let (items, rest) ← readItems fuel rest
              return (item :: items, rest)
          | ']' :: rest => return ([item], rest)
          | _ => none

/-- The pairs of a table up to its closing brace; a comma may follow the last. -/
def readPairs (fuel : Nat) (text : List Char) : Option (List Char) :=
  match fuel with
  | 0 => none
  | fuel + 1 =>
      match text with
      | '\x7d' :: rest => some rest
      | text => do
          match skipBlanks (← dropKey (skipBlanks text)) with
          | '=' :: rest => do
              let (_, rest) ← readValue fuel rest
              match rest with
              | ',' :: rest => readPairs fuel rest
              | '\x7d' :: rest => return rest
              | _ => none
          | _ => none

end

/-- The setting of a value. -/
def settingOf (value : String) : Setting :=
  let chars := value.toList
  match readValue (chars.length + 2) chars with
  | some (setting, []) => setting
  | _ => .text value

/-! ## Names -/

/-- The setting that a variable gives, if it gives one.  A point in a name makes
a table of the part before it. -/
def readVariable (name value : String) : Option (String × Setting) :=
  let name := (Text.trim name.toList).map Char.toLower
  match dropWord? (namePrefix.toList.map Char.toLower) name with
  | none => none
  | some key =>
      match Text.cuts (· == '.') (Text.trim key) with
      | [key] => if key.isEmpty then none else some (String.ofList key, settingOf value)
      | parts =>
          if parts.any List.isEmpty then none
          else some (String.ofList (parts.headD []), .other)

/-- The settings that an environment gives. -/
def settings (env : Environment) : Settings :=
  (env.filterMap fun (name, value) => readVariable name value).reverse

end Environment

end CoreArray
