import CoreArray.Pattern.Basic
import CoreArray.Pattern.Property
set_option autoImplicit false

/-!
# Flags and escapes of patterns

Flags say how a stretch of a pattern is to be read and matched.  A backslash gives
the character after it another meaning: a class, a place, a character by its code,
or itself.
-/

namespace CoreArray.Pattern

/-- The flags that hold at a place of a pattern. -/
structure Flags where
  /-- Letters stand for themselves in any case. -/
  anyCase : Bool
  /-- `^` and `$` mark the ends of lines too. -/
  multiLine : Bool
  /-- `.` stands for the characters that end lines too. -/
  dotAll : Bool
  /-- Carriage returns end lines too. -/
  returns : Bool
  /-- Blanks and remarks in the pattern say nothing. -/
  spaced : Bool
  /-- Classes are those of all characters, and not only of the ASCII ones. -/
  unicode : Bool
  deriving DecidableEq, Repr, Inhabited

/-- The flags that hold at the start of a pattern. -/
def Flags.initial : Flags := ⟨false, false, false, false, false, true⟩

/-- Leave out blanks, and remarks from `#` to the end of a line. -/
def skipRemarks (inRemark : Bool) : List Char → List Char
  | [] => []
  | c :: rest =>
      if inRemark then skipRemarks (c != '\n') rest
      else if c = '#' then skipRemarks true rest
      else if Text.isBlank c then skipRemarks false rest
      else c :: rest

/-- Leave out what says nothing. -/
def Flags.skip (flags : Flags) (text : List Char) : List Char :=
  if flags.spaced then skipRemarks false text else text

/-- What stands in braces without what says nothing there. -/
def Flags.inside (flags : Flags) (text : List Char) : List Char :=
  if flags.spaced then Text.squeeze text else text

/-- Put a class into any case if asked for. -/
def Flags.cased (flags : Flags) (chars : CharClass) : CharClass :=
  if !flags.anyCase then chars
  else if flags.unicode then .anyCase chars
  else .inter .ascii (.anyCase chars)

/-- The class of a literal character. -/
def Flags.literal (flags : Flags) (c : Char) : CharClass :=
  if flags.unicode || c.toNat < 128 then flags.cased (.single c) else .single c

/-- What an escape stands for. -/
inductive Escape where
  | char (c : Char)
  /-- A single byte by its code. -/
  | byte (c : Char)
  | chars (chars : CharClass)
  | place (place : Place)
  deriving DecidableEq, Repr, Inhabited

/-- Whether a character may follow a backslash to stand for itself: an ASCII
character that is no letter, digit or angle bracket. -/
def isEscapable (c : Char) : Bool :=
  c.toNat < 128 && !c.isAlphanum && c != '<' && c != '>'

/-- The class that a letter names, among all characters or the ASCII ones. -/
def namedClass? (unicode : Bool) : Char → Option CharClass
  | 'd' => some (if unicode then .digit else .asciiDigit)
  | 'w' => some (if unicode then .word else .asciiWord)
  | 's' => some (if unicode then .blank else .asciiBlank)
  | 'D' => if unicode then some (.complement .digit) else none
  | 'W' => if unicode then some (.complement .word) else none
  | 'S' => if unicode then some (.complement .blank) else none
  | _ => none

/-- The control character that a letter names. -/
def namedControl? : Char → Option Char
  | 'n' => some '\n'
  | 't' => some '\t'
  | 'r' => some '\r'
  | 'f' => some '\x0c'
  | 'v' => some '\x0b'
  | 'a' => some '\x07'
  | _ => none

/-- The place beside a word that a character names. -/
def namedWordPlace? : Char → Option WordPlace
  | 'b' => some .edge
  | 'B' => some .notEdge
  | '<' => some .start
  | '>' => some .stop
  | _ => none

/-- The place beside a word that a word in braces names. -/
def bracedWordPlace? : List Char → Option WordPlace
  | ['s', 't', 'a', 'r', 't'] => some .start
  | ['e', 'n', 'd'] => some .stop
  | ['s', 't', 'a', 'r', 't', '-', 'h', 'a', 'l', 'f'] => some .startHalf
  | ['e', 'n', 'd', '-', 'h', 'a', 'l', 'f'] => some .stopHalf
  | _ => none

/-- A place beside a word of the characters that the flags ask for. -/
def Flags.wordPlace (flags : Flags) (place : WordPlace) : Escape :=
  .place (.word place (if flags.unicode then .word else .asciiWord))

/-- Read what follows `\b`: a word in braces may say more, unless the braces hold
the counts of a repetition. -/
def readEdge (flags : Flags) (text : List Char) : Option (Escape × List Char) :=
  let isWordChar (c : Char) : Bool := c.isAlpha || c == '-'
  match text with
  | '\x7b' :: rest =>
      match flags.skip rest with
      | [] => none
      | c :: _ =>
          if isWordChar c then
            match Text.cutOnce (· == '\x7d') rest with
            | some (name, rest) =>
                (bracedWordPlace? (flags.inside name)).map fun place =>
                  (flags.wordPlace place, rest)
            | none => none
          else some (flags.wordPlace .edge, text)
  | text => some (flags.wordPlace .edge, text)

/-- Take a fixed count of hexadecimal digits. -/
def takeHex (flags : Flags) : (count : Nat) → List Char → Option (List Char × List Char)
  | 0, text => some ([], text)
  | count + 1, text =>
      match flags.skip text with
      | [] => none
      | c :: rest => do
          let (digits, rest) ← takeHex flags count rest
          return (c :: digits, rest)

/-- Read a character by its code: in braces, or with a fixed count of digits. -/
def readCode (flags : Flags) (count : Nat) (text : List Char) : Option (Escape × List Char) :=
  match flags.skip text with
  | '\x7b' :: rest => do
      let (digits, rest) ← Text.cutOnce (· == '\x7d') rest
      let c ← Text.charOfHex? (flags.inside digits)
      return (.char c, rest)
  | text => do
      let (digits, rest) ← takeHex flags count text
      let c ← Text.charOfHex? digits
      return (if count = 2 then .byte c else .char c, rest)

/-- Read a property: a letter, or what stands in braces. -/
def readProperty (flags : Flags) (negated : Bool) (text : List Char) :
    Option (Escape × List Char) := do
  let (chars?, rest) ← match flags.skip text with
    | [] => none
    | '\x7b' :: rest =>
        (Text.cutOnce (· == '\x7d') rest).map fun (name, rest) =>
          (propertyOf? (flags.inside name), rest)
    | c :: rest => some (propertyNamed? [c], rest)
  let chars := flags.cased (← chars?)
  if !flags.unicode then none
  else return (.chars (if negated then .complement chars else chars), rest)

/-- Read what follows a backslash. -/
def readEscape (flags : Flags) : List Char → Option (Escape × List Char)
  | [] => none
  | 'x' :: rest => readCode flags 2 rest
  | 'u' :: rest => readCode flags 4 rest
  | 'U' :: rest => readCode flags 8 rest
  | 'p' :: rest => readProperty flags false rest
  | 'P' :: rest => readProperty flags true rest
  | 'A' :: rest => some (.place .textStart, rest)
  | 'z' :: rest => some (.place .textEnd, rest)
  | 'b' :: rest => readEdge flags rest
  | c :: rest =>
      match namedClass? flags.unicode c, namedControl? c, namedWordPlace? c with
      | some chars, _, _ => some (.chars chars, rest)
      | _, some control, _ => some (.char control, rest)
      | _, _, some place => some (flags.wordPlace place, rest)
      | _, _, _ => if isEscapable c then some (.char c, rest) else none

/-- The character of an escape that stands for one.  A single byte is none beyond
ASCII if only bytes are asked for. -/
def Escape.char? (flags : Flags) : Escape → Option Char
  | .char c => some c
  | .byte c => if flags.unicode || c.toNat < 128 then some c else none
  | _ => none

end CoreArray.Pattern
