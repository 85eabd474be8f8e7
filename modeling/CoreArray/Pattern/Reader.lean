import CoreArray.Pattern.Bracket
import CoreArray.Text.Numeral
set_option autoImplicit false

/-!
# Reading patterns

The notation of patterns: literal characters, `.`, escapes, classes in brackets,
groups and alternatives, `^` and `$`, the repetitions `*`, `+`, `?` and `a{2,3}`,
and flags such as `(?i)`.  A text outside the notation is refused, and so is a
pattern that is nested too deeply or grows too large.

The readers take fuel.  Every turn consumes a character or closes a group, so that
twice the length of the text suffices.
-/

namespace CoreArray.Pattern

/-- A part of a pattern with the depth of its nesting. -/
structure Part where
  pattern : Pattern
  depth : Nat
  /-- Whether the part only sets flags, so that there is nothing to repeat. -/
  isSetting : Bool
  deriving DecidableEq, Repr, Inhabited

namespace Part

/-- A part without parts of its own. -/
def leaf (pattern : Pattern) : Part := ⟨pattern, 0, false⟩

/-- A part that sets flags. -/
def setting : Part := ⟨.empty, 0, true⟩

/-- A part around another one. -/
def around (wrap : Pattern → Pattern) (part : Part) : Part :=
  ⟨wrap part.pattern, part.depth + 1, false⟩

/-- Parts put together, the last one first. -/
def ofReversed (neutral : Pattern) (join : Pattern → Pattern → Pattern) : List Part → Part
  | [] => leaf neutral
  | [part] => part
  | last :: before =>
      ⟨before.foldl (fun later part => join part.pattern later) last.pattern,
        deepest ((last :: before).map Part.depth) + 1, false⟩

end Part

/-- What is left to read, and the names of groups so far. -/
structure Cursor where
  rest : List Char
  names : List (List Char)
  deriving DecidableEq, Repr, Inhabited

/-! ## Repetitions -/

/-- The largest count of a repetition. -/
def maxCount : Nat := 4294967295

/-- Read a count, between blanks. -/
def readCount (text : List Char) : Option Nat :=
  (Text.readDigits (Text.trim text)).bind fun n => if n ≤ maxCount then some n else none

/-- Read the counts of a repetition after its opening brace. -/
def readCounts (flags : Flags) (text : List Char) : Option (Nat × Option Nat × List Char) := do
  let (inside, rest) ← Text.cutOnce (· == '\x7d') text
  match Text.cuts (· == ',') (flags.inside inside) with
  | [count] => (readCount count).map fun n => (n, some n, rest)
  | [least, []] => (readCount least).map fun n => (n, none, rest)
  | [least, most] => do
      let least ← readCount least
      let most ← readCount most
      if most < least then none else return (least, some most, rest)
  | _ => none

/-- Leave out the mark that makes a repetition prefer fewer turns. -/
def dropLazy : List Char → List Char
  | '?' :: rest => rest
  | text => text

/-- Repeat the last of some parts. -/
def repeatLast (least : Nat) (most : Option Nat) : List Part → Option (List Part)
  | [] => none
  | part :: parts =>
      if part.isSetting then none else some (part.around (.times least most) :: parts)

/-! ## Groups -/

/-- Whether a character may stand in the name of a group. -/
def mayBeInName (isFirst : Bool) (c : Char) : Bool :=
  if isFirst then c == '_' || Unicode.isAlphabetic c
  else c == '_' || c == '.' || c == '[' || c == ']' || Unicode.isAlphanumeric c

/-- Read the name of a group, up to `>`.  No two groups may have one name. -/
def readName (cursor : Cursor) (text : List Char) : Option Cursor := do
  let (name, rest) ← Text.cutOnce (· == '>') text
  match name with
  | [] => none
  | c :: others =>
      if mayBeInName true c && others.all (mayBeInName false) && !cursor.names.contains name then
        return ⟨rest, name :: cursor.names⟩
      else none

/-- Set or clear the flag of a letter. -/
def Flags.set? (flags : Flags) (value : Bool) : Char → Option Flags
  | 'i' => some { flags with anyCase := value }
  | 'm' => some { flags with multiLine := value }
  | 's' => some { flags with dotAll := value }
  | 'R' => some { flags with returns := value }
  | 'x' => some { flags with spaced := value }
  | 'u' => some { flags with unicode := value }
  | 'U' => some flags
  | _ => none

/-- What flags in a group are followed by. -/
structure FlagsHead where
  flags : Flags
  /-- Whether a body follows, for which alone the flags are. -/
  hasBody : Bool
  rest : List Char
  deriving DecidableEq, Repr, Inhabited

/-- Read flags up to `:` or `)`, given the letters so far.  A hyphen clears those
that follow it; one must, and no letter may stand twice. -/
def readFlags (flags : Flags) (seen : List Char) : List Char → Option FlagsHead
  | [] => none
  | c :: rest =>
      if c = ':' || c = ')' then
        if seen.head? = some '-' || (c = ')' && seen.isEmpty) then none
        else some ⟨flags, c = ':', rest⟩
      else if seen.contains c then none
      else if c = '-' then readFlags flags (c :: seen) rest
      else
        match flags.set? (!seen.contains '-') c with
        | some flags => readFlags flags (c :: seen) rest
        | none => none

/-- What a group begins with. -/
inductive GroupHead where
  /-- A body follows. -/
  | body (flags : Flags) (cursor : Cursor)
  /-- The group is closed and sets flags for what follows it. -/
  | setting (flags : Flags) (rest : List Char)
  deriving DecidableEq, Repr, Inhabited

/-- Whether a text asks for what stands before or after a match, which patterns
cannot. -/
def isLookAround : List Char → Bool
  | '?' :: '=' :: _ | '?' :: '!' :: _ | '?' :: '<' :: '=' :: _ | '?' :: '<' :: '!' :: _ => true
  | _ => false

/-- Read what a group begins with. -/
def readGroupHead (flags : Flags) (cursor : Cursor) : Option GroupHead :=
  let text := flags.skip cursor.rest
  if isLookAround text then none
  else
    match text with
    | '?' :: 'P' :: '<' :: rest => (readName cursor rest).map (.body flags)
    | '?' :: '<' :: rest => (readName cursor rest).map (.body flags)
    | '?' :: rest => (readFlags flags [] rest).map fun head =>
        if head.hasBody then .body head.flags { cursor with rest := head.rest }
        else .setting head.flags head.rest
    | rest => some (.body flags { cursor with rest })

/-! ## Whole patterns -/

/-- The pattern of an escape. -/
def escapePattern? (flags : Flags) : Escape → Option Pattern
  | .chars chars => some (.one chars)
  | .place place => some (.look place)
  | escape => (escape.char? flags).map fun c => .one (flags.literal c)

/-- The class of `.`: every character, or those that end no line. -/
def dotClass? (flags : Flags) : Option CharClass :=
  if !flags.unicode then none
  else if flags.dotAll then some .all
  else if flags.returns then some (.complement (.union (.single '\n') (.single '\r')))
  else some (.complement (.single '\n'))

/-- The place of `^`. -/
def startPlace (flags : Flags) : Place :=
  if flags.multiLine then .lineStart flags.returns else .textStart

/-- The place of `$`. -/
def endPlace (flags : Flags) : Place :=
  if flags.multiLine then .lineEnd flags.returns else .textEnd

mutual

/-- Read alternatives up to the end of the text or a closing parenthesis, given
those before, the last one first.  Flags set in one hold in the later ones. -/
def readAlternatives (fuel : Nat) (flags : Flags) (before : List Part) (cursor : Cursor) :
    Option (Part × Cursor) :=
  match fuel with
  | 0 => none
  | fuel + 1 => do
      let (part, flags, cursor) ← readSequence fuel flags [] cursor
      match cursor.rest with
      | '|' :: rest => readAlternatives fuel flags (part :: before) { cursor with rest }
      | _ => return (Part.ofReversed .empty .alt (part :: before), cursor)

/-- Read a sequence up to a bar, a closing parenthesis or the end of the text,
given its parts so far, the last one first. -/
def readSequence (fuel : Nat) (flags : Flags) (parts : List Part) (cursor : Cursor) :
    Option (Part × Flags × Cursor) :=
  match fuel with
  | 0 => none
  | fuel + 1 =>
      let goOn (parts : List Part) (rest : List Char) : Option (Part × Flags × Cursor) :=
        readSequence fuel flags parts { cursor with rest }
      let add (pattern : Pattern) (rest : List Char) : Option (Part × Flags × Cursor) :=
        goOn (.leaf pattern :: parts) rest
      let again (least : Nat) (most : Option Nat) (rest : List Char) :
          Option (Part × Flags × Cursor) := do
        goOn (← repeatLast least most parts) rest
      let text := flags.skip cursor.rest
      match text with
      | [] | '|' :: _ | ')' :: _ =>
          some (Part.ofReversed .empty .seq parts, flags, { cursor with rest := text })
      | '*' :: rest => again 0 none (dropLazy rest)
      | '+' :: rest => again 1 none (dropLazy rest)
      | '?' :: rest => again 0 (some 1) (dropLazy rest)
      | '\x7b' :: rest => do
          let (least, most, rest) ← readCounts flags rest
          again least most (dropLazy (flags.skip rest))
      | '^' :: rest => add (.look (startPlace flags)) rest
      | '$' :: rest => add (.look (endPlace flags)) rest
      | '.' :: rest => do add (.one (← dotClass? flags)) rest
      | '[' :: rest => do
          let (members, rest) ← readBracket (2 * rest.length + 2) flags rest
          goOn (⟨.one members.chars, members.depth, false⟩ :: parts) rest
      | '\\' :: rest => do
          let (escape, rest) ← readEscape flags rest
          add (← escapePattern? flags escape) rest
      | '(' :: rest => do
          match ← readGroupHead flags { cursor with rest } with
          | .setting flags rest =>
              readSequence fuel flags (.setting :: parts) { cursor with rest }
          | .body inner cursor => do
              let (body, cursor) ← readAlternatives fuel inner [] cursor
              match cursor.rest with
              | ')' :: rest =>
                  readSequence fuel flags (body.around id :: parts) { cursor with rest }
              | _ => none
      | c :: rest => add (.one (flags.literal c)) rest

end

/-- The deepest nesting of a pattern. -/
def maxDepth : Nat := 250

/-- Read a pattern. -/
def read (text : String) : Option Pattern :=
  let chars := text.toList
  match readAlternatives (2 * chars.length + 2) .initial [] ⟨chars, []⟩ with
  | some (part, ⟨[], _⟩) =>
      if part.depth ≤ maxDepth && part.pattern.weight ≤ maxWeight then some part.pattern else none
  | _ => none

end CoreArray.Pattern
